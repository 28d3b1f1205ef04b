import TrustChain.Library.OrderedTable
import TrustChain.Library.Transition
import TrustChain.ScanQueue.Runs

/-!
# The scan queue

All scan runs and the executions in progress. A query that orders rows may return any of the
rows that are equal in the order; which rows it returns comes with the request, and so do the
clock readings, which do not go back.
-/

namespace TrustChain.ScanQueue

open Library

structure World where
  rows : OrderedTable String ScanRun := .empty
  executions : List Execution := []
  now : Time := 0

/-! ## Queries -/

/-- The rows that an ascending order may put first. -/
def firstBy (le : ScanRun → ScanRun → Bool) (rows : List (String × ScanRun)) :
    List (String × ScanRun) :=
  rows.filter fun row => rows.all fun other => le row.2 other.2

/-- Whether `picked` may be the answer of a query for the first `limit` of the rows. -/
def mayReturn (le : ScanRun → ScanRun → Bool) (rows : List (String × ScanRun)) (limit : Nat)
    (picked : List String) : Bool :=
  picked.Nodup ∧ picked.length = min limit rows.length ∧
    (∀ scanId ∈ picked, scanId ∈ rows.map Prod.fst) ∧
    ∀ first ∈ rows, ∀ other ∈ rows, first.1 ∈ picked → other.1 ∉ picked → le first.2 other.2

def createdLe (row other : ScanRun) : Bool := row.createdAt ≤ other.createdAt

def leaseLe (row other : ScanRun) : Bool :=
  row.leaseExpiresAt.getD 0 ≤ other.leaseExpiresAt.getD 0

/-- The order by retry time and creation; a database puts missing times first or last. -/
def retryLe (nullsFirst : Bool) (row other : ScanRun) : Bool :=
  if row.nextRetryAt = other.nextRetryAt then createdLe row other
  else
    match row.nextRetryAt, other.nextRetryAt with
    | none, _ => nullsFirst
    | some _, none => !nullsFirst
    | some time, some another => time ≤ another

namespace World

variable (world : World) (now : Time)

def withStatus (status : Status) : List (String × ScanRun) :=
  world.rows.rows.filter fun row => row.2.status = status

/-- The rows that `claim_next_scan_run` may pick. -/
def claimable (nullsFirst includeFailed : Bool) : List (String × ScanRun) :=
  let pending := world.withStatus .pending
  if pending ≠ [] then firstBy createdLe pending
  else
    let stale := (world.withStatus .claimed).filter fun row => row.2.stale now
    if stale ≠ [] then firstBy leaseLe stale
    else if includeFailed then
      (firstBy (retryLe nullsFirst) ((world.withStatus .failed).filter fun row =>
        row.2.currentAttempt < row.2.retryMaxAttempts)).filter fun row =>
          ¬row.2.nextRetryAt.any (now < ·)
    else []

/-- The rows that `recover_stale_scan_runs` selects from. -/
def recoverable : List (String × ScanRun) :=
  world.rows.rows.filter fun row =>
    (row.2.status = .claimed ∨ row.2.status = .running) ∧ row.2.stale now

/-- The rows that `sweep_dead_letter_scan_runs` selects from. -/
def exhausted : List (String × ScanRun) :=
  (world.withStatus .failed).filter fun row => row.2.retryMaxAttempts ≤ row.2.currentAttempt

/-- Change the rows under some identifiers. -/
def change (picked : List String) (change : ScanRun → ScanRun) : World :=
  { world with
    rows := world.rows.map fun scanId row => if scanId ∈ picked then change row else row }

/-- Change one row, which has to be there, as an operation does. -/
def update (scanId : String) (operation : ScanRun → Except String ScanRun) : Option World := do
  let row ← world.rows.get scanId
  let next ← (operation row).toOption
  some (world.change [scanId] fun _ => next)

end World

/-! ## Operations -/

/-- The bounds on the number of rows that a pass selects. -/
def limitValue (limit : Int) : Nat := (max 1 (min limit 1000)).toNat

inductive Action where
  /-- `run_batch_scan`, asynchronous, under a fresh identifier. -/
  | create (scanId : String) (policy : RetryPolicy)
  | claim (runnerIdentityId : String) (leaseSeconds : Int) (includeFailed : Bool) (picked : String)
  | heartbeat (scanId runnerIdentityId : String) (leaseSeconds : Int)
  | cancel (scanId : String) (runnerIdentityId reason : Option String)
  | recover (limit : Int) (picked : List String)
  | sweep (limit : Int) (reason : Option String) (picked : List String)
  | requeue (scanId : String)
  /-- The start of `execute_scan_run` without force. -/
  | execute (scanId : String) (runnerIdentityId : Option String) (leaseSeconds : Int)
      (requireFailed : Bool)
  /-- The end of the execution at a position. -/
  | complete (position total flagged : Nat)
  | fail (position : Nat) (error : String)

namespace World

variable (world : World) (now : Time)

/-- Start to execute a row. -/
def execute (scanId : String) (runnerIdentityId : Option String) (leaseSeconds : Int)
    (requireFailed : Bool) : Option World := do
  let row ← world.rows.get scanId
  let started ← (row.start now runnerIdentityId leaseSeconds requireFailed).toOption
  match started with
  | none => some world
  | some session =>
      some { world.change [scanId] fun _ => session with
        executions := world.executions ++ [⟨scanId, session⟩] }

/-- End an execution with what it writes to its row. -/
def finish (position : Nat) (write : Execution → ScanRun → ScanRun) : Option World := do
  let execution ← world.executions[position]?
  some { world.change [execution.scanId] (write execution) with
    executions := world.executions.eraseIdx position }

def dispatch (nullsFirst : Bool) : Action → Option World
  | .create scanId policy =>
      if (world.rows.get scanId).isNone then
        some { world with rows := world.rows.set scanId (policy.create now) }
      else none
  | .claim runnerIdentityId leaseSeconds includeFailed picked =>
      if picked ∈ (world.claimable now nullsFirst includeFailed).map Prod.fst then
        some (world.change [picked] fun row => row.claim now runnerIdentityId leaseSeconds)
      else none
  | .heartbeat scanId runnerIdentityId leaseSeconds =>
      world.update scanId fun row => row.heartbeat now runnerIdentityId leaseSeconds
  | .cancel scanId runnerIdentityId reason =>
      world.update scanId fun row => row.cancel now runnerIdentityId reason
  | .recover limit picked =>
      if mayReturn leaseLe (world.recoverable now) (limitValue limit) picked then
        some (world.change picked fun row => row.recover now)
      else none
  | .sweep limit reason picked =>
      if mayReturn createdLe world.exhausted (limitValue limit) picked then
        some (world.change picked fun row => row.sweep now reason)
      else none
  | .requeue scanId => world.update scanId ScanRun.requeue
  | .execute scanId runnerIdentityId leaseSeconds requireFailed =>
      world.execute now scanId runnerIdentityId leaseSeconds requireFailed
  | .complete position total flagged =>
      world.finish position fun execution row => execution.complete row now total flagged
  | .fail position error =>
      world.finish position fun execution row => execution.fail row now error

end World

/-- Perform an action at a time, no earlier than the one before; one that raises changes nothing
and is no step. -/
def perform (nullsFirst : Bool) (world : World) (step : Time × Action) : Option World :=
  if world.now ≤ step.1 then
    (world.dispatch step.1 nullsFirst step.2).map fun next => { next with now := step.1 }
  else none

/-- The queue from its first run on. -/
def queue (nullsFirst : Bool) : TransitionSystem World (Time × Action) where
  Init world := world.rows = .empty ∧ world.executions = []
  Step world step next := perform nullsFirst world step = some next

/-! ## What an action does to one row -/

/-- A row that an execution may be started on, by the runner. -/
inductive Startable (now : Time) (runnerIdentityId : Option String) (row : ScanRun) : Prop
  | pending : row.status = .pending → Startable now runnerIdentityId row
  | failed : row.status = .failed → row.currentAttempt < row.retryMaxAttempts →
      ¬row.nextRetryAt.any (now < ·) → Startable now runnerIdentityId row
  | claimed : row.status = .claimed →
      (truthy runnerIdentityId ∧ truthy row.claimedBy → row.claimedBy = runnerIdentityId) →
      Startable now runnerIdentityId row
  | deadLetter : row.status = .deadLetter → Startable now runnerIdentityId row

/-- How the status and the attempts of a row move with an action, from a world on. -/
inductive Moves (world : World) (now : Time) (scanId : String) (row next : ScanRun) : Action → Prop
  | kept (action : Action) : next.status = row.status → next.currentAttempt = row.currentAttempt →
      Moves world now scanId row next action
  | claimed (runnerIdentityId : String) (leaseSeconds : Int) (includeFailed : Bool) :
      row.status = .pending ∨ row.status = .claimed ∨
        row.status = .failed ∧ row.currentAttempt < row.retryMaxAttempts →
      next.status = .claimed → next.currentAttempt = row.currentAttempt →
      Moves world now scanId row next (.claim runnerIdentityId leaseSeconds includeFailed scanId)
  | cancelled (runnerIdentityId reason : Option String) :
      next.status = .cancelled → next.currentAttempt = row.currentAttempt →
      Moves world now scanId row next (.cancel scanId runnerIdentityId reason)
  | released (limit : Int) (picked : List String) :
      row.status = .claimed → next.status = .pending →
      next.currentAttempt = row.currentAttempt →
      Moves world now scanId row next (.recover limit picked)
  | lapsed (limit : Int) (picked : List String) :
      row.status = .running → row.stale now → scanId ∈ picked → next.status = .failed →
      next.currentAttempt = row.currentAttempt →
      Moves world now scanId row next (.recover limit picked)
  | swept (limit : Int) (reason : Option String) (picked : List String) :
      row.status = .failed → next.status = .deadLetter →
      next.currentAttempt = row.currentAttempt →
      Moves world now scanId row next (.sweep limit reason picked)
  | requeued : row.status = .deadLetter → next.status = .pending → next.currentAttempt = 0 →
      Moves world now scanId row next (.requeue scanId)
  | begun (runnerIdentityId : Option String) (leaseSeconds : Int) (requireFailed : Bool) :
      Startable now runnerIdentityId row → next.status = .running →
      next.currentAttempt = row.currentAttempt + 1 →
      Moves world now scanId row next (.execute scanId runnerIdentityId leaseSeconds requireFailed)
  | completed (position total flagged : Nat) :
      (world.executions[position]?).map Execution.scanId = some scanId →
      next.status = .completed → next.currentAttempt = row.currentAttempt →
      Moves world now scanId row next (.complete position total flagged)
  | failed (position : Nat) (error : String) :
      (world.executions[position]?).map Execution.scanId = some scanId →
      next.status = .failed → next.currentAttempt = row.currentAttempt →
      Moves world now scanId row next (.fail position error)

section Effects

variable {world next : World} {now : Time} {nullsFirst : Bool} {scanId other : String}
  {row : ScanRun}

theorem start_ok {runnerIdentityId : Option String} {leaseSeconds : Int} {requireFailed : Bool}
    {session : Session}
    (started : row.start now runnerIdentityId leaseSeconds requireFailed = .ok (some session)) :
    Startable now runnerIdentityId row ∧ session = row.begin now runnerIdentityId leaseSeconds := by
  simp only [ScanRun.start, require_bind_eq_ok] at started
  obtain ⟨-, uncancelled, holder, started⟩ := started
  split_ifs at started with answered
  · simp at started
  · simp only [require_bind_eq_ok, Except.ok.injEq, Option.some.injEq] at started
    obtain ⟨waits, attempts, rfl⟩ := started
    refine ⟨?_, rfl⟩
    cases status : row.status with
    | pending => exact .pending status
    | claimed => exact .claimed status (holder status)
    | running => exact absurd (.inr status) answered
    | completed => exact absurd (.inl status) answered
    | failed => exact .failed status (attempts status) (waits status)
    | cancelled => exact absurd status uncancelled
    | deadLetter => exact .deadLetter status

theorem complete_status (execution : Execution) (total flagged : Nat) :
    (execution.complete row now total flagged).status = .completed := by
  simp [Execution.complete, Execution.flushRow, Execution.flush, ScanRun.clearClaimFields,
    execution.session.property]

theorem fail_status (execution : Execution) (error : String) :
    (execution.fail row now error).status = .failed := by
  simp [Execution.fail, Execution.flushRow, Execution.flush, ScanRun.clearClaimFields,
    execution.session.property]

theorem get_change (picked : List String) (change : ScanRun → ScanRun)
    (there : world.rows.get scanId = some row) :
    (world.change picked change).rows.get scanId =
      some (if scanId ∈ picked then change row else row) := by
  rw [World.change, OrderedTable.get_map, there, Option.map_some]

theorem mem_withStatus {status : Status} {entry : String × ScanRun}
    (member : entry ∈ world.withStatus status) :
    world.rows.get entry.1 = some entry.2 ∧ entry.2.status = status := by
  simp only [World.withStatus, List.mem_filter, decide_eq_true_eq] at member
  exact ⟨OrderedTable.mem_rows_iff.mp member.1, member.2⟩

theorem mem_claimable {includeFailed : Bool} {entry : String × ScanRun}
    (member : entry ∈ world.claimable now nullsFirst includeFailed) :
    world.rows.get entry.1 = some entry.2 ∧ (entry.2.status = .pending ∨
      entry.2.status = .claimed ∨
      entry.2.status = .failed ∧ entry.2.currentAttempt < entry.2.retryMaxAttempts) := by
  simp only [World.claimable] at member
  split_ifs at member with pending stale failed
  · obtain ⟨there, status⟩ := mem_withStatus (List.mem_filter.mp member).1
    exact ⟨there, .inl status⟩
  · obtain ⟨there, status⟩ := mem_withStatus (List.mem_filter.mp (List.mem_filter.mp member).1).1
    exact ⟨there, .inr (.inl status)⟩
  · have chosen := (List.mem_filter.mp (List.mem_filter.mp member).1).1
    obtain ⟨inside, attempts⟩ := List.mem_filter.mp chosen
    obtain ⟨there, status⟩ := mem_withStatus inside
    exact ⟨there, .inr (.inr ⟨status, of_decide_eq_true attempts⟩)⟩
  · simp at member

/-- A row that a pass has picked is one that its query selects. -/
theorem of_mayReturn {le : ScanRun → ScanRun → Bool} {rows : List (String × ScanRun)} {limit : Nat}
    {picked : List String} (returned : mayReturn le rows limit picked = true)
    (member : scanId ∈ picked) : ∃ row, (scanId, row) ∈ rows := by
  simp only [mayReturn, decide_eq_true_eq] at returned
  obtain ⟨⟨_, row⟩, inside, rfl⟩ := List.mem_map.mp (returned.2.2.1 scanId member)
  exact ⟨row, inside⟩

theorem update_eq_some {operation : ScanRun → Except String ScanRun}
    (updated : world.update scanId operation = some next) :
    ∃ before after, world.rows.get scanId = some before ∧ operation before = .ok after ∧
      next = world.change [scanId] fun _ => after := by
  simp only [World.update, Option.bind_eq_bind, Option.bind_eq_some_iff, toOption_eq_some,
    Option.some.injEq] at updated
  obtain ⟨before, there, after, applied, rfl⟩ := updated
  exact ⟨before, after, there, applied, rfl⟩

theorem execute_eq_some {runnerIdentityId : Option String} {leaseSeconds : Int}
    {requireFailed : Bool}
    (executed : world.execute now scanId runnerIdentityId leaseSeconds requireFailed = some next) :
    next = world ∨ ∃ before, world.rows.get scanId = some before ∧
      Startable now runnerIdentityId before ∧
      next = { world.change [scanId] fun _ =>
          (before.begin now runnerIdentityId leaseSeconds).val with
        executions :=
          world.executions ++ [⟨scanId, before.begin now runnerIdentityId leaseSeconds⟩] } := by
  simp only [World.execute, Option.bind_eq_bind, Option.bind_eq_some_iff, toOption_eq_some]
    at executed
  obtain ⟨before, there, _ | session, started, rest⟩ := executed
  · exact .inl (Option.some.inj rest).symm
  · obtain ⟨startable, rfl⟩ := start_ok started
    exact .inr ⟨before, there, startable, (Option.some.inj rest).symm⟩

theorem finish_eq_some {position : Nat} {write : Execution → ScanRun → ScanRun}
    (finished : world.finish position write = some next) :
    ∃ execution, world.executions[position]? = some execution ∧
      next = { world.change [execution.scanId] (write execution) with
        executions := world.executions.eraseIdx position } := by
  simp only [World.finish, Option.bind_eq_bind, Option.bind_eq_some_iff, Option.some.injEq]
    at finished
  obtain ⟨execution, there, rfl⟩ := finished
  exact ⟨execution, there, rfl⟩

/-- A change moves a row it picks, and keeps the others. -/
theorem change_moves {picked : List String} {change : ScanRun → ScanRun} {action : Action}
    (there : world.rows.get scanId = some row)
    (moves : scanId ∈ picked → (change row).retryMaxAttempts = row.retryMaxAttempts ∧
      Moves world now scanId row (change row) action) :
    ∃ after, (world.change picked change).rows.get scanId = some after ∧
      after.retryMaxAttempts = row.retryMaxAttempts ∧ Moves world now scanId row after action := by
  refine ⟨_, get_change picked change there, ?_⟩
  by_cases chosen : scanId ∈ picked
  · simpa [chosen] using moves chosen
  · simpa [chosen] using Moves.kept action rfl rfl

/-- The row of an identifier is one row. -/
theorem row_eq {before : ScanRun} (there : world.rows.get scanId = some row)
    (again : world.rows.get scanId = some before) : before = row :=
  Option.some.inj (again.symm.trans there)

theorem dispatch_moves {action : Action}
    (dispatched : world.dispatch now nullsFirst action = some next)
    (there : world.rows.get scanId = some row) :
    ∃ after, next.rows.get scanId = some after ∧
      after.retryMaxAttempts = row.retryMaxAttempts ∧ Moves world now scanId row after action := by
  cases action with
  | create created policy =>
      simp only [World.dispatch, Option.ite_none_right_eq_some, Option.some.injEq,
        Option.isNone_iff_eq_none] at dispatched
      obtain ⟨fresh, rfl⟩ := dispatched
      have other : scanId ≠ created := fun same => by simp [← same, there] at fresh
      exact ⟨row, by simp [OrderedTable.get_set, other, there], rfl, .kept _ rfl rfl⟩
  | claim runnerIdentityId leaseSeconds includeFailed picked =>
      simp only [World.dispatch, Option.ite_none_right_eq_some, Option.some.injEq] at dispatched
      obtain ⟨member, rfl⟩ := dispatched
      refine change_moves there fun chosen => ⟨rfl, ?_⟩
      obtain rfl := List.mem_singleton.mp chosen
      obtain ⟨⟨_, before⟩, inside, rfl⟩ := List.mem_map.mp member
      obtain ⟨again, status⟩ := mem_claimable inside
      obtain rfl := row_eq there again
      exact .claimed _ _ _ status rfl rfl
  | heartbeat updated runnerIdentityId leaseSeconds =>
      obtain ⟨before, after, again, applied, rfl⟩ := update_eq_some dispatched
      refine change_moves there fun chosen => ?_
      obtain rfl := List.mem_singleton.mp chosen
      obtain rfl := row_eq there again
      simp only [ScanRun.heartbeat, require_bind_eq_ok, Except.ok.injEq] at applied
      obtain ⟨-, -, rfl⟩ := applied
      exact ⟨rfl, .kept _ rfl rfl⟩
  | cancel updated runnerIdentityId reason =>
      obtain ⟨before, after, again, applied, rfl⟩ := update_eq_some dispatched
      refine change_moves there fun chosen => ?_
      obtain rfl := List.mem_singleton.mp chosen
      obtain rfl := row_eq there again
      simp only [ScanRun.cancel, require_bind_eq_ok, Except.ok.injEq] at applied
      obtain ⟨-, -, rfl⟩ := applied
      exact ⟨rfl, .cancelled _ _ rfl rfl⟩
  | recover limit picked =>
      simp only [World.dispatch, Option.ite_none_right_eq_some, Option.some.injEq] at dispatched
      obtain ⟨returned, rfl⟩ := dispatched
      refine change_moves there fun chosen => ?_
      obtain ⟨before, inside⟩ := of_mayReturn returned chosen
      simp only [World.recoverable, List.mem_filter, decide_eq_true_eq] at inside
      obtain ⟨again, status, stale⟩ := inside
      obtain rfl := row_eq there (OrderedTable.mem_rows_iff.mp again)
      rcases status with claimed | running
      · have after : before.recover now = ScanRun.clearClaimFields { before with
            status := .pending
            lastError := some "stale claim recovered to pending"
            nextRetryAt := none } := by
          simp [ScanRun.recover, claimed]
        rw [after]
        exact ⟨rfl, .released _ _ claimed rfl rfl⟩
      · have after : before.recover now = ScanRun.clearClaimFields { before with
            status := .failed
            completedAt := none
            lastError := some "worker lease expired during run execution"
            nextRetryAt := if before.currentAttempt < before.retryMaxAttempts then some now
              else none } := by
          simp [ScanRun.recover, running]
        rw [after]
        exact ⟨rfl, .lapsed _ _ running stale chosen rfl rfl⟩
  | sweep limit reason picked =>
      simp only [World.dispatch, Option.ite_none_right_eq_some, Option.some.injEq] at dispatched
      obtain ⟨returned, rfl⟩ := dispatched
      refine change_moves there fun chosen => ⟨rfl, ?_⟩
      obtain ⟨before, inside⟩ := of_mayReturn returned chosen
      obtain ⟨again, status⟩ := mem_withStatus (List.mem_filter.mp inside).1
      obtain rfl := row_eq there again
      exact .swept _ _ _ status rfl rfl
  | requeue updated =>
      obtain ⟨before, after, again, applied, rfl⟩ := update_eq_some dispatched
      refine change_moves there fun chosen => ?_
      obtain rfl := List.mem_singleton.mp chosen
      obtain rfl := row_eq there again
      simp only [ScanRun.requeue, require_bind_eq_ok, Except.ok.injEq] at applied
      obtain ⟨dead, rfl⟩ := applied
      exact ⟨rfl, .requeued dead rfl rfl⟩
  | execute executed runnerIdentityId leaseSeconds requireFailed =>
      rcases execute_eq_some dispatched with rfl | ⟨before, again, startable, rfl⟩
      · exact ⟨row, there, rfl, .kept _ rfl rfl⟩
      · refine change_moves there fun chosen => ?_
        obtain rfl := List.mem_singleton.mp chosen
        obtain rfl := row_eq there again
        exact ⟨rfl, .begun _ _ _ startable rfl rfl⟩
  | complete position total flagged =>
      obtain ⟨execution, ended, rfl⟩ := finish_eq_some dispatched
      refine change_moves there fun chosen => ⟨rfl, ?_⟩
      obtain rfl := List.mem_singleton.mp chosen
      exact .completed _ _ _ (by simp [ended]) (complete_status _ _ _) rfl
  | fail position error =>
      obtain ⟨execution, ended, rfl⟩ := finish_eq_some dispatched
      refine change_moves there fun chosen => ⟨rfl, ?_⟩
      obtain rfl := List.mem_singleton.mp chosen
      exact .failed _ _ (by simp [ended]) (fail_status _ _) rfl

/-- The position of the execution that an action ends. -/
def Action.ends : Action → Option Nat
  | .complete position _ _ => some position
  | .fail position _ => some position
  | _ => none

/-- How the executions in progress move with an action, from a world on to the next. -/
inductive Progress (world : World) (now : Time) (next : World) : Action → Prop
  | kept (action : Action) : action.ends = none → next.executions = world.executions →
      Progress world now next action
  | begun (scanId : String) (runnerIdentityId : Option String) (leaseSeconds : Int)
      (requireFailed : Bool) (row : ScanRun) (session : Session) :
      world.rows.get scanId = some row → Startable now runnerIdentityId row →
      next.rows.get scanId = some session.val →
      next.executions = world.executions ++ [⟨scanId, session⟩] →
      Progress world now next (.execute scanId runnerIdentityId leaseSeconds requireFailed)
  | ended (action : Action) (position : Nat) :
      action.ends = some position → position < world.executions.length →
      next.executions = world.executions.eraseIdx position →
      Progress world now next action

/-- An action creates a row, or changes rows that are there. -/
theorem dispatch_shape {action : Action}
    (dispatched : world.dispatch now nullsFirst action = some next) :
    (∃ created policy, next = { world with
      rows := world.rows.set created (RetryPolicy.create policy now) }) ∨
    ∃ picked change executions, next = { world.change picked change with executions } := by
  cases action with
  | create created policy =>
      simp only [World.dispatch, Option.ite_none_right_eq_some, Option.some.injEq] at dispatched
      obtain ⟨-, rfl⟩ := dispatched
      exact .inl ⟨created, policy, rfl⟩
  | claim runnerIdentityId leaseSeconds includeFailed picked =>
      simp only [World.dispatch, Option.ite_none_right_eq_some, Option.some.injEq] at dispatched
      obtain ⟨-, rfl⟩ := dispatched
      exact .inr ⟨[picked], fun row => row.claim now runnerIdentityId leaseSeconds, _, rfl⟩
  | heartbeat updated | cancel updated | requeue updated =>
      obtain ⟨before, after, -, -, rfl⟩ := update_eq_some dispatched
      exact .inr ⟨[updated], fun _ => after, _, rfl⟩
  | recover limit picked =>
      simp only [World.dispatch, Option.ite_none_right_eq_some, Option.some.injEq] at dispatched
      obtain ⟨-, rfl⟩ := dispatched
      exact .inr ⟨picked, fun row => row.recover now, _, rfl⟩
  | sweep limit reason picked =>
      simp only [World.dispatch, Option.ite_none_right_eq_some, Option.some.injEq] at dispatched
      obtain ⟨-, rfl⟩ := dispatched
      exact .inr ⟨picked, fun row => row.sweep now reason, _, rfl⟩
  | execute executed runnerIdentityId leaseSeconds requireFailed =>
      rcases execute_eq_some dispatched with rfl | ⟨before, -, -, rfl⟩
      · exact .inr ⟨[], id, next.executions, by simp [World.change]⟩
      · exact .inr ⟨_, _, _, rfl⟩
  | complete | fail =>
      obtain ⟨execution, -, rfl⟩ := finish_eq_some dispatched
      exact .inr ⟨_, _, _, rfl⟩

/-- A row that was not there has just been created. -/
theorem dispatch_fresh {action : Action}
    (dispatched : world.dispatch now nullsFirst action = some next)
    (absent : world.rows.get scanId = none) (there : next.rows.get scanId = some row) :
    row.status = .pending ∧ row.currentAttempt = 0 ∧ 1 ≤ row.retryMaxAttempts := by
  rcases dispatch_shape dispatched with ⟨created, policy, rfl⟩ | ⟨picked, change, _, rfl⟩
  · simp only [OrderedTable.get_set, absent] at there
    split_ifs at there with same
    obtain rfl := Option.some.inj there
    exact ⟨rfl, rfl, policy.attempts_bounds.1⟩
  · simp [World.change, OrderedTable.get_map, absent] at there

theorem dispatch_progress {action : Action}
    (dispatched : world.dispatch now nullsFirst action = some next) :
    Progress world now next action := by
  cases action with
  | create | claim | recover | sweep =>
      simp only [World.dispatch, Option.ite_none_right_eq_some, Option.some.injEq] at dispatched
      obtain ⟨-, rfl⟩ := dispatched
      exact .kept _ rfl rfl
  | heartbeat | cancel | requeue =>
      obtain ⟨before, after, -, -, rfl⟩ := update_eq_some dispatched
      exact .kept _ rfl rfl
  | execute executed runnerIdentityId leaseSeconds requireFailed =>
      rcases execute_eq_some dispatched with rfl | ⟨before, there, startable, rfl⟩
      · exact .kept _ rfl rfl
      · exact .begun _ _ _ _ before _ there startable
          (by simpa using get_change [executed] _ there) rfl
  | complete position | fail position =>
      obtain ⟨execution, there, rfl⟩ := finish_eq_some dispatched
      exact .ended _ position rfl (List.getElem?_eq_some_iff.mp there).1 rfl

end Effects

end TrustChain.ScanQueue
