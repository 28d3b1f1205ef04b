import Mathlib.Data.List.Perm.Basic
import TrustChain.ScanQueue.Queue

/-!
# Executions of scan runs

Attempts are bounded, cancelled and dead runs stay as they are until a requeue, and one
execution of a run is in progress at a time, each up to the steps that get around it: starting
a dead run, ending an execution of a stopped run, and recovering a run that is still executed.
Anybody may start a run that nobody has claimed.
-/

namespace TrustChain.ScanQueue

open Library TransitionSystem

section Execution

variable {nullsFirst : Bool} {start world next : World} {steps : List (Time × Action)}
  {now : Time} {action : Action} {scanId : String} {row : ScanRun}

variable (step : (queue nullsFirst).Step world (now, action) next)

include step

theorem step_eq_some :
    ∃ after, world.dispatch now nullsFirst action = some after ∧ next.rows = after.rows ∧
      next.executions = after.executions := by
  change perform nullsFirst world (now, action) = some next at step
  simp only [perform, Option.ite_none_right_eq_some, Option.map_eq_some_iff] at step
  obtain ⟨-, after, dispatched, rfl⟩ := step
  exact ⟨after, dispatched, rfl, rfl⟩

/-- What a step does to a row that is there. -/
theorem step_moves (there : world.rows.get scanId = some row) :
    ∃ after, next.rows.get scanId = some after ∧
      after.retryMaxAttempts = row.retryMaxAttempts ∧ Moves world now scanId row after action := by
  obtain ⟨after, dispatched, rows, -⟩ := step_eq_some step
  rw [rows]
  exact dispatch_moves dispatched there

theorem step_fresh (absent : world.rows.get scanId = none)
    (there : next.rows.get scanId = some row) :
    row.status = .pending ∧ row.currentAttempt = 0 ∧ 1 ≤ row.retryMaxAttempts := by
  obtain ⟨after, dispatched, rows, -⟩ := step_eq_some step
  rw [rows] at there
  exact dispatch_fresh dispatched absent there

omit step

/-! ## Events -/

/-- A run is executed while it is a dead letter. -/
def BeginsDead (scanId : String) (world : World) (step : Time × Action) (_ : World) : Prop :=
  ∃ row runnerIdentityId leaseSeconds requireFailed, world.rows.get scanId = some row ∧
    row.status = .deadLetter ∧
    step.2 = .execute scanId runnerIdentityId leaseSeconds requireFailed

def ScanRun.Stopped (row : ScanRun) : Prop := row.status = .cancelled ∨ row.status = .deadLetter

/-- An execution of a run ends while the run is cancelled or a dead letter. -/
def EndsStopped (scanId : String) (world : World) (step : Time × Action) (_ : World) : Prop :=
  ∃ row position, world.rows.get scanId = some row ∧ row.Stopped ∧
    step.2.ends = some position ∧
    (world.executions[position]?).map Execution.scanId = some scanId

def Requeues (scanId : String) (_ : World) (step : Time × Action) (_ : World) : Prop :=
  step.2 = .requeue scanId

/-- The executions of a run in progress. -/
def World.inProgress (world : World) (scanId : String) : Nat :=
  world.executions.countP fun execution => execution.scanId = scanId

/-- A run is recovered as stale while an execution of it is in progress. -/
def RecoversInProgress (scanId : String) (world : World) (step : Time × Action) (_ : World) :
    Prop :=
  ∃ limit picked, step.2 = .recover limit picked ∧ scanId ∈ picked ∧ 0 < world.inProgress scanId

/-! ## Attempts -/

/-- The attempts are within the bound, with one left where the run waits for an execution. -/
def ScanRun.Bounded (row : ScanRun) : Prop :=
  row.currentAttempt ≤ row.retryMaxAttempts ∧
    (row.status = .pending ∨ row.status = .claimed → row.currentAttempt < row.retryMaxAttempts)

theorem Moves.bounded {after : ScanRun} (moves : Moves world now scanId row after action)
    (same : after.retryMaxAttempts = row.retryMaxAttempts) (bounded : row.Bounded)
    (alive : ¬BeginsDead scanId world (now, action) next)
    (there : world.rows.get scanId = some row) (positive : 1 ≤ row.retryMaxAttempts) :
    after.Bounded := by
  obtain ⟨within, left⟩ := bounded
  unfold ScanRun.Bounded
  rw [same]
  cases moves with
  | kept _ status attempts => rw [status, attempts]; exact ⟨within, left⟩
  | claimed _ _ _ from_ status attempts =>
      rw [attempts]
      refine ⟨within, fun _ => ?_⟩
      rcases from_ with pending | claimed | ⟨-, fewer⟩
      · exact left (.inl pending)
      · exact left (.inr claimed)
      · exact fewer
  | cancelled _ _ status attempts => rw [status, attempts]; exact ⟨within, by simp⟩
  | released _ _ claimed status attempts =>
      rw [attempts]
      exact ⟨within, fun _ => left (.inr claimed)⟩
  | lapsed _ _ _ _ _ status attempts => rw [status, attempts]; exact ⟨within, by simp⟩
  | swept _ _ _ _ status attempts => rw [status, attempts]; exact ⟨within, by simp⟩
  | requeued _ _ attempts => rw [attempts]; exact ⟨Nat.zero_le _, fun _ => positive⟩
  | begun runnerIdentityId leaseSeconds requireFailed startable status attempts =>
      rw [status, attempts]
      refine ⟨Nat.succ_le_of_lt ?_, by simp⟩
      cases startable with
      | pending pending => exact left (.inl pending)
      | failed _ fewer => exact fewer
      | claimed claimed => exact left (.inr claimed)
      | deadLetter dead =>
          exact absurd ⟨row, runnerIdentityId, leaseSeconds, requireFailed, there, dead, rfl⟩ alive
  | completed _ _ _ _ status attempts => rw [status, attempts]; exact ⟨within, by simp⟩
  | failed _ _ _ status attempts => rw [status, attempts]; exact ⟨within, by simp⟩

/-- The row under an identifier, if there is one, is bounded, and allows an attempt. -/
def World.BoundedAt (world : World) (scanId : String) : Prop :=
  ∀ row, world.rows.get scanId = some row → row.Bounded ∧ 1 ≤ row.retryMaxAttempts

theorem step_bounded (step : (queue nullsFirst).Step world (now, action) next)
    (bounded : world.BoundedAt scanId) (alive : ¬BeginsDead scanId world (now, action) next) :
    next.BoundedAt scanId := by
  intro after there
  cases before : world.rows.get scanId with
  | none =>
      obtain ⟨pending, none, positive⟩ := step_fresh step before there
      rw [ScanRun.Bounded, none]
      exact ⟨⟨Nat.zero_le _, fun _ => positive⟩, positive⟩
  | some row =>
      obtain ⟨found, again, same, moves⟩ := step_moves step before
      obtain rfl := Option.some.inj (there.symm.trans again)
      obtain ⟨within, positive⟩ := bounded row before
      exact ⟨moves.bounded same within alive before positive, same ▸ positive⟩

/-! ## Stopped runs -/

theorem Moves.stopped {after : ScanRun} (moves : Moves world now scanId row after action)
    (stopped : row.Stopped) (there : world.rows.get scanId = some row)
    (waiting : ¬Requeues scanId world (now, action) next)
    (alive : ¬BeginsDead scanId world (now, action) next)
    (unended : ¬EndsStopped scanId world (now, action) next) : after.Stopped := by
  unfold ScanRun.Stopped at *
  cases moves with
  | kept _ status => rwa [status]
  | claimed _ _ _ from_ => rcases stopped with is | is <;> simp [is] at from_
  | cancelled _ _ status => exact .inl status
  | released _ _ claimed => simp [claimed] at stopped
  | lapsed _ _ running => simp [running] at stopped
  | swept _ _ _ failed status => exact .inr status
  | requeued => exact absurd rfl waiting
  | begun runnerIdentityId leaseSeconds requireFailed startable =>
      cases startable with
      | pending pending => simp [pending] at stopped
      | failed failed => simp [failed] at stopped
      | claimed claimed => simp [claimed] at stopped
      | deadLetter dead =>
          exact absurd ⟨row, runnerIdentityId, leaseSeconds, requireFailed, there, dead, rfl⟩ alive
  | completed position _ _ ends => exact absurd ⟨row, position, there, stopped, rfl, ends⟩ unended
  | failed position _ ends => exact absurd ⟨row, position, there, stopped, rfl, ends⟩ unended

/-- The run under an identifier is cancelled or a dead letter. -/
def World.StoppedAt (world : World) (scanId : String) : Prop :=
  ∃ row, world.rows.get scanId = some row ∧ row.Stopped

theorem step_stopped (step : (queue nullsFirst).Step world (now, action) next)
    (stopped : world.StoppedAt scanId) (waiting : ¬Requeues scanId world (now, action) next)
    (alive : ¬BeginsDead scanId world (now, action) next)
    (unended : ¬EndsStopped scanId world (now, action) next) : next.StoppedAt scanId := by
  obtain ⟨row, there, is⟩ := stopped
  obtain ⟨after, found, -, moves⟩ := step_moves step there
  exact ⟨after, found, moves.stopped is there waiting alive unended⟩

/-! ## Executions in progress -/

/-- At most one execution of a run is in progress, and then the run is running or cancelled. -/
def World.AloneAt (world : World) (scanId : String) : Prop :=
  world.inProgress scanId ≤ 1 ∧ (world.inProgress scanId ≠ 0 → ∃ row,
    world.rows.get scanId = some row ∧ (row.status = .running ∨ row.status = .cancelled))

/-- Ending an execution of the run takes one off the count. -/
theorem inProgress_eraseIdx (scanId : String) {position : Nat} (inside : position < world.executions.length)
    (erased : next.executions = world.executions.eraseIdx position) :
    next.inProgress scanId + (if world.executions[position].scanId = scanId then 1 else 0) =
      world.inProgress scanId := by
  have permuted := List.getElem_cons_eraseIdx_perm inside
  rw [World.inProgress, erased, World.inProgress, ← permuted.countP_eq, List.countP_cons]
  simp

theorem Moves.occupied {after : ScanRun} (moves : Moves world now scanId row after action)
    (status : row.status = .running ∨ row.status = .cancelled)
    (held : ¬RecoversInProgress scanId world (now, action) next)
    (busy : 0 < world.inProgress scanId)
    (elsewhere : ∀ position, action.ends = some position →
      (world.executions[position]?).map Execution.scanId ≠ some scanId) :
    after.status = .running ∨ after.status = .cancelled := by
  cases moves with
  | kept _ same => rwa [same]
  | claimed _ _ _ from_ => rcases status with is | is <;> simp [is] at from_
  | cancelled _ _ cancelled => exact .inr cancelled
  | released _ _ claimed => simp [claimed] at status
  | lapsed limit picked _ _ chosen => exact absurd ⟨limit, picked, rfl, chosen, busy⟩ held
  | swept _ _ _ failed => simp [failed] at status
  | requeued dead => simp [dead] at status
  | begun _ _ _ _ running => exact .inl running
  | completed position _ _ here => exact absurd here (elsewhere position rfl)
  | failed position _ here => exact absurd here (elsewhere position rfl)

theorem Startable.free {runnerIdentityId : Option String}
    (startable : Startable now runnerIdentityId row) :
    ¬(row.status = .running ∨ row.status = .cancelled) := by
  cases startable with
  | pending is => simp [is]
  | failed is => simp [is]
  | claimed is => simp [is]
  | deadLetter is => simp [is]

theorem step_alone (step : (queue nullsFirst).Step world (now, action) next)
    (alone : world.AloneAt scanId) (held : ¬RecoversInProgress scanId world (now, action) next) :
    next.AloneAt scanId := by
  obtain ⟨mid, dispatched, rows, executions⟩ := step_eq_some step
  obtain ⟨single, occupied⟩ := alone
  have same : next.inProgress scanId = mid.inProgress scanId := by
    rw [World.inProgress, executions, World.inProgress]
  rw [World.AloneAt, same, rows]
  cases dispatch_progress dispatched with
  | kept _ unended kept =>
      have count : mid.inProgress scanId = world.inProgress scanId := by
        rw [World.inProgress, kept, World.inProgress]
      rw [count]
      refine ⟨single, fun busy => ?_⟩
      obtain ⟨row, there, status⟩ := occupied busy
      obtain ⟨after, found, -, moves⟩ := dispatch_moves dispatched there
      exact ⟨after, found, moves.occupied status held (Nat.pos_of_ne_zero busy) (by simp [unended])⟩
  | begun begun runnerIdentityId leaseSeconds requireFailed row session there startable now_there
      appended =>
      have count : mid.inProgress scanId =
          world.inProgress scanId + if begun = scanId then 1 else 0 := by
        rw [World.inProgress, appended, World.inProgress, List.countP_append, List.countP_singleton]
        simp
      rw [count]
      by_cases here : begun = scanId
      · subst here
        -- A run that can be started has no execution in progress.
        have idle : world.inProgress begun = 0 := by
          by_contra busy
          obtain ⟨found, again, status⟩ := occupied busy
          obtain rfl := row_eq there again
          exact startable.free status
        rw [idle]
        exact ⟨by simp, fun _ => ⟨session, now_there, .inl session.property⟩⟩
      · simp only [here, if_false, Nat.add_zero]
        refine ⟨single, fun busy => ?_⟩
        obtain ⟨found, again, status⟩ := occupied busy
        obtain ⟨after, later, -, moves⟩ := dispatch_moves dispatched again
        exact ⟨after, later, moves.occupied status held (Nat.pos_of_ne_zero busy)
          (by simp [Action.ends])⟩
  | ended _ position ends inside erased =>
      have count := inProgress_eraseIdx scanId inside erased
      refine ⟨by omega, fun busy => ?_⟩
      -- The execution that ended was one of another run.
      have elsewhere : world.executions[position].scanId ≠ scanId := by
        intro here
        rw [if_pos here] at count
        omega
      obtain ⟨row, there, status⟩ := occupied (by omega)
      obtain ⟨after, found, -, moves⟩ := dispatch_moves dispatched there
      refine ⟨after, found, moves.occupied status held (by omega) fun other same => ?_⟩
      obtain rfl := Option.some.inj (ends.symm.trans same)
      simpa [List.getElem?_eq_getElem inside] using elsewhere

/-! ## Whole runs -/

/-- An execution of a run that is no dead letter is started where the run waits and nobody has
claimed it, where it may be retried, or by the runner that has claimed it. -/
theorem step_startable (step : (queue nullsFirst).Step world (now, action) next)
    (there : world.rows.get scanId = some row) (alive : row.status ≠ .deadLetter)
    (more : world.inProgress scanId < next.inProgress scanId) :
    ∃ runnerIdentityId leaseSeconds requireFailed,
      action = .execute scanId runnerIdentityId leaseSeconds requireFailed ∧
      (row.status = .pending ∨
        row.status = .failed ∧ row.currentAttempt < row.retryMaxAttempts ∧
          ¬row.nextRetryAt.any (now < ·) ∨
        row.status = .claimed ∧ (truthy runnerIdentityId ∧ truthy row.claimedBy →
          row.claimedBy = runnerIdentityId)) := by
  obtain ⟨mid, dispatched, -, executions⟩ := step_eq_some step
  rw [World.inProgress, World.inProgress, executions] at more
  cases dispatch_progress dispatched with
  | kept _ _ kept => exact absurd more (by rw [kept]; exact lt_irrefl _)
  | begun begun runnerIdentityId leaseSeconds requireFailed found session again startable _
      appended =>
      rw [appended, List.countP_append, List.countP_singleton] at more
      by_cases here : begun = scanId
      · subst here
        obtain rfl := row_eq there again
        refine ⟨runnerIdentityId, leaseSeconds, requireFailed, rfl, ?_⟩
        cases startable with
        | pending is => exact .inl is
        | failed is fewer waits => exact .inr (.inl ⟨is, fewer, waits⟩)
        | claimed is holder => exact .inr (.inr ⟨is, holder⟩)
        | deadLetter is => exact absurd is alive
      · simp [here] at more
  | ended _ position _ inside erased =>
      have count := inProgress_eraseIdx scanId inside erased
      simp only [World.inProgress] at count
      omega

/-- Attempts stay within their bound unless a dead run is executed; a stopped run stays stopped
until it is requeued, executed as a dead letter, or an execution of it ends; whoever starts a run
finds it waiting, or holds its claim; two executions are in progress only after a recovery has
taken a run from one. -/
theorem scan_run_execution (initial : (queue nullsFirst).Init start)
    (run : (queue nullsFirst).Run start steps world) (scanId : String) :
    ((∃ row, world.rows.get scanId = some row ∧ row.retryMaxAttempts < row.currentAttempt) →
      (queue nullsFirst).Takes start steps world (BeginsDead scanId)) ∧
    (∀ before after middle, steps = before ++ after →
      (queue nullsFirst).Run start before middle → (queue nullsFirst).Run middle after world →
      middle.StoppedAt scanId → ¬world.StoppedAt scanId →
      (queue nullsFirst).Takes middle after world fun state step next =>
        Requeues scanId state step next ∨ BeginsDead scanId state step next ∨
          EndsStopped scanId state step next) ∧
    (1 < world.inProgress scanId →
      (queue nullsFirst).Takes start steps world (RecoversInProgress scanId)) ∧
    ∀ time action next row, (queue nullsFirst).Step world (time, action) next →
      world.rows.get scanId = some row → row.status ≠ .deadLetter →
      world.inProgress scanId < next.inProgress scanId →
      ∃ runnerIdentityId leaseSeconds requireFailed,
        action = .execute scanId runnerIdentityId leaseSeconds requireFailed ∧
        (row.status = .pending ∨
          row.status = .failed ∧ row.currentAttempt < row.retryMaxAttempts ∧
            ¬row.nextRetryAt.any (time < ·) ∨
          row.status = .claimed ∧ (truthy runnerIdentityId ∧ truthy row.claimedBy →
            row.claimedBy = runnerIdentityId)) := by
  obtain ⟨noRows, noExecutions⟩ := initial
  have reachable : (queue nullsFirst).Reachable start := .init ⟨noRows, noExecutions⟩
  refine ⟨fun ⟨row, there, exceeds⟩ => ?_, fun before after middle _ first rest stopped later => ?_,
    fun several => ?_, fun time action next row step there alive more =>
      step_startable step there alive more⟩
  · refine Takes.of_onset (fun state => ¬state.BoundedAt scanId) ?_ reachable ?_ run ?_
    · rintro state ⟨now, action⟩ next - step late
      by_contra neither
      obtain ⟨early, alive⟩ := not_or.mp neither
      exact late (step_bounded step (not_not.mp early) alive)
    · exact not_not.mpr fun row there => by simp [noRows] at there
    · exact fun bounded => absurd (bounded row there).1.1 (by omega)
  · refine Takes.of_onset (fun state => ¬state.StoppedAt scanId) ?_ (reachable.run first)
      (not_not.mpr stopped) rest later
    rintro state ⟨now, action⟩ next - step late
    by_contra neither
    obtain ⟨early, waiting, alive, unended⟩ := by simpa only [not_or] using neither
    exact late (step_stopped step (not_not.mp early) waiting alive unended)
  · refine Takes.of_onset (fun state => ¬state.AloneAt scanId) ?_ reachable ?_ run ?_
    · rintro state ⟨now, action⟩ next - step late
      by_contra neither
      obtain ⟨early, held⟩ := not_or.mp neither
      exact late (step_alone step (not_not.mp early) held)
    · have none : start.inProgress scanId = 0 := by simp [World.inProgress, noExecutions]
      exact not_not.mpr ⟨by omega, fun busy => absurd none busy⟩
    · exact fun alone => absurd alone.1 (by omega)

end Execution

/-! ## Runs that get around the checks -/

namespace Demo

abbrev Scene := Library.Scene (perform false) {}

theorem initial : (queue false).Init {} := ⟨rfl, rfl⟩

theorem Scene.run (scene : Scene) : (queue false).Run {} scene.actions scene.world :=
  Library.Scene.run (fun _ _ _ performed => performed) scene

def execute (time : Time) : Time × Action := (time, .execute "run" none 1 false)

/-- One attempt is allowed, and nobody has claimed the run. -/
def pending : Scene where
  actions := [(0, .create "run" { retryMaxAttempts := 1 })]
  possible := by decide +kernel

def running : Scene := pending.next (execute 0) (by decide +kernel)

/-- The attempt fails, the run becomes a dead letter, and is executed again. -/
def dead : Scene where
  actions := running.actions ++
    [(1, .fail 0 "error"), (2, .sweep 100 none ["run"]), execute 3]
  possible := by decide +kernel

/-- The run is cancelled while it is executed, and the execution completes. -/
def cancelled : Scene where
  actions := running.actions ++ [(1, .cancel "run" none none), (2, .complete 0 5 0)]
  possible := by decide +kernel

/-- The lease of an execution in progress expires, and another one starts. -/
def overtaken : Scene where
  actions := [(0, .create "run" {}), execute 0, (1000000, .recover 100 ["run"]), execute 1000000]
  possible := by decide +kernel

/-- Status, attempts, their bound and the claim of the run. -/
def seen (scene : Scene) : Option (Status × Nat × Nat × Option String) :=
  (scene.world.rows.get "run").map fun row =>
    (row.status, row.currentAttempt, row.retryMaxAttempts, row.claimedBy)

end Demo

/-- An execution starts without a claim; a dead run is executed beyond its attempts, and a
cancelled one completes, neither being requeued; two executions of one run are in progress. -/
theorem scan_run_execution_unguarded :
    (Demo.seen Demo.pending = some (.pending, 0, 1, none) ∧
      (queue false).Step Demo.pending.world (Demo.execute 0) Demo.running.world ∧
      Demo.running.world.inProgress "run" = 1) ∧
    (Demo.seen Demo.dead = some (.running, 2, 1, none) ∧
      ∀ step ∈ Demo.dead.actions, step.2 ≠ .requeue "run") ∧
    (Demo.seen Demo.cancelled = some (.completed, 1, 1, none) ∧
      (.cancel "run" none none) ∈ Demo.cancelled.actions.map Prod.snd ∧
      ∀ step ∈ Demo.cancelled.actions, step.2 ≠ .requeue "run") ∧
    Demo.overtaken.world.inProgress "run" = 2 := by
  refine ⟨⟨by decide +kernel, Demo.pending.performed _ _, by decide +kernel⟩,
    ⟨by decide +kernel, ?_⟩, ⟨by decide +kernel, ?_, ?_⟩, by decide +kernel⟩
  · simp [Demo.dead, Demo.running, Demo.pending, Demo.execute, Library.Scene.next]
  · simp [Demo.cancelled, Demo.running, Demo.pending, Demo.execute, Library.Scene.next]
  · simp [Demo.cancelled, Demo.running, Demo.pending, Demo.execute, Library.Scene.next]

theorem scan_run_execution_demo :
    (queue false).Takes {} Demo.overtaken.actions Demo.overtaken.world
      (RecoversInProgress "run") :=
  (scan_run_execution Demo.initial Demo.overtaken.run "run").2.2.1 (by decide +kernel)

end TrustChain.ScanQueue
