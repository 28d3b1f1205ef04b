import TrustChain.Library.Outcome
import TrustChain.Library.Table
import TrustChain.Library.Transition
import TrustChain.Verifier.Signer

/-!
# Challenge windows

After an attestation, a task can be challenged until its window has passed. The manager keeps one
window for each task; whoever asks for the status of a window brings it up to date first.
-/

namespace TrustChain.Verifier

open Library

/-- Microseconds since the epoch. -/
abbrev Time := Int

def second : Time := 10 ^ 6

inductive ChallengeWindowStatus where
  | pending | opened | closed | disputed
deriving DecidableEq

def ChallengeWindowStatus.value : ChallengeWindowStatus → String
  | .pending => "pending"
  | .opened => "open"
  | .closed => "closed"
  | .disputed => "disputed"

inductive ChallengeDecision where
  | upheld | overruled
deriving DecidableEq

structure ChallengeWindow where
  challengeId : String := ""
  taskId : TaskId := ""
  evidenceHash : String := ""
  startAt : Time
  endAt : Time
  durationSeconds : Int := 1800
  status : ChallengeWindowStatus := .pending
deriving DecidableEq

inductive ChallengeStatus where
  | opened | resolved
deriving DecidableEq

structure ChallengeRecord where
  challengeId : String
  taskId : TaskId
  challengerWallet : String
  reasonCode : String
  evidenceHash : String
  challengeEvidenceCid : String
  status : ChallengeStatus
  decision : Option ChallengeDecision
  createdAt : Time
deriving DecidableEq

inductive WindowError where
  | valueError (message : String)
  | overflowError

/-- `_ChallengeWindowState`. -/
structure ChallengeWindowState where
  window : ChallengeWindow
  challenge : Option ChallengeRecord := none
deriving DecidableEq

structure ChallengeWindowManager where
  defaultDurationSeconds : Int := 1800
  windows : Table TaskId ChallengeWindowState := .empty

/-- `_sync_window_status`. -/
def syncWindowStatus (now : Time) (window : ChallengeWindow) : ChallengeWindow :=
  if window.status = .opened ∧ window.endAt < now then { window with status := .closed }
  else window

def isWindowOpen (now : Time) (window : ChallengeWindow) : Bool :=
  (syncWindowStatus now window).status = .opened

def isWindowClosed (now : Time) (window : ChallengeWindow) : Bool :=
  (syncWindowStatus now window).status = .closed

def canSettle (now : Time) (window : ChallengeWindow) : Bool :=
  (syncWindowStatus now window).status = .closed

def getRemainingSeconds (now : Time) (window : ChallengeWindow) : Int :=
  if (syncWindowStatus now window).status ≠ .opened then 0
  else max 0 ((window.endAt - now).tdiv second)

/-- The times that a `datetime` can have. -/
def inCalendar (time : Time) : Prop :=
  -62135596800 * second ≤ time ∧ time < 253402300800 * second

instance : DecidablePred inCalendar := fun _ => by
  unfold inCalendar
  infer_instance

namespace ChallengeWindowManager

variable (manager : ChallengeWindowManager) (now : Time) (taskId : TaskId)

/-- `open_window`, which takes no notice of the task's type. -/
def openWindow (evidenceHash _taskType : String) (durationSeconds : Option Int) :
    Except WindowError ChallengeWindowManager := do
  require (manager.windows.get taskId = none)
    (.valueError ("Challenge window already exists for task_id=" ++ taskId))
  let dur := (durationSeconds.filter (· ≠ 0)).getD manager.defaultDurationSeconds
  let start := now / second * second
  require (inCalendar (start + dur * second)) .overflowError
  let window : ChallengeWindow := {
    challengeId := "challenge-" ++ taskId
    taskId
    evidenceHash
    startAt := start
    endAt := start + dur * second
    durationSeconds := dur
    status := .opened }
  .ok { manager with windows := manager.windows.set taskId { window } }

/-- `raise_challenge` on an up-to-date window; `suffix` is drawn at random. -/
def raiseChallenge (state : ChallengeWindowState) (challenger reason evidenceCid suffix : String) :
    Except WindowError ChallengeWindowState := do
  let window := state.window
  require (window.status = .opened)
    (.valueError ("Cannot raise challenge: window status is " ++ window.status.value))
  require (state.challenge.isNone)
    (.valueError ("Challenge already raised for task_id=" ++ window.taskId))
  let record : ChallengeRecord := {
    challengeId := "challenge-" ++ window.taskId ++ "-" ++ suffix
    taskId := window.taskId
    challengerWallet := challenger
    reasonCode := reason
    evidenceHash := window.evidenceHash
    challengeEvidenceCid := evidenceCid
    status := .opened
    decision := none
    createdAt := now / second * second }
  .ok { window := { window with status := .disputed }, challenge := some record }

/-- `resolve_challenge`. -/
def resolveChallenge (state : ChallengeWindowState) (decision : ChallengeDecision) :
    Except WindowError ChallengeWindowState :=
  match state.challenge with
  | none => .error (.valueError ("No active challenge for task_id=" ++ state.window.taskId))
  | some challenge => .ok {
      window :=
        match decision with
        | .upheld => { state.window with status := .disputed }
        | .overruled => syncWindowStatus now state.window
      challenge := some { challenge with status := .resolved, decision := some decision } }

/-- Bring a window up to date. -/
def synced (state : ChallengeWindowState) : ChallengeWindowState :=
  { state with window := syncWindowStatus now state.window }

end ChallengeWindowManager

/-! ## The manager as a system -/

inductive WindowAction where
  | openWindow (now : Time) (taskId : TaskId) (evidenceHash taskType : String)
      (durationSeconds : Option Int)
  /-- One of the questions about a window, which bring it up to date. -/
  | ask (now : Time) (taskId : TaskId)
  | raiseChallenge (now : Time) (taskId : TaskId) (challenger reason evidenceCid suffix : String)
  | resolveChallenge (now : Time) (taskId : TaskId) (decision : ChallengeDecision)

namespace ChallengeWindowManager

/-- The state of a task's window becomes another one, if there is a window. -/
def update (manager : ChallengeWindowManager) (taskId : TaskId)
    (change : ChallengeWindowState → ChallengeWindowState) : ChallengeWindowManager :=
  match manager.windows.get taskId with
  | none => manager
  | some state => { manager with windows := manager.windows.set taskId (change state) }

/-- A call that raises leaves a window up to date, if it gets so far. -/
def perform (manager : ChallengeWindowManager) : WindowAction → ChallengeWindowManager
  | .openWindow now taskId evidenceHash taskType durationSeconds =>
      (manager.openWindow now taskId evidenceHash taskType durationSeconds).toOption.getD manager
  | .ask now taskId => manager.update taskId (synced now)
  | .raiseChallenge now taskId challenger reason evidenceCid suffix =>
      manager.update taskId fun state =>
        (raiseChallenge now (synced now state) challenger reason evidenceCid suffix).toOption.getD
          (synced now state)
  | .resolveChallenge now taskId decision => manager.update taskId fun state =>
      (resolveChallenge now state decision).toOption.getD state

end ChallengeWindowManager

def windowSystem (defaultDurationSeconds : Int) :
    TransitionSystem ChallengeWindowManager WindowAction where
  Init manager := manager = { defaultDurationSeconds }
  Step manager action next := manager.perform action = next

/-! ## Managed windows -/

/-- A window of a manager is its task's, and is no longer pending. -/
structure ChallengeWindowState.Managed (taskId : TaskId) (state : ChallengeWindowState) : Prop where
  task : state.window.taskId = taskId
  begun : state.window.status ≠ .pending

section Managed

variable {manager : ChallengeWindowManager} {now : Time} {taskId : TaskId}
  {state : ChallengeWindowState} {window : ChallengeWindow} {defaultDurationSeconds : Int}

theorem syncWindowStatus_cases (now : Time) (window : ChallengeWindow) :
    syncWindowStatus now window = window ∨
      syncWindowStatus now window = { window with status := .closed } := by
  unfold syncWindowStatus
  split
  · exact .inr rfl
  · exact .inl rfl

theorem ChallengeWindowState.Managed.synced (managed : state.Managed taskId) :
    (ChallengeWindowManager.synced now state).Managed taskId := by
  unfold ChallengeWindowManager.synced
  rcases syncWindowStatus_cases now state.window with same | closed
  · rw [same]
    exact managed
  · rw [closed]
    exact ⟨managed.task, nofun⟩

theorem managed_update {change : ChallengeWindowState → ChallengeWindowState}
    (managed : manager.windows.Every fun taskId state => state.Managed taskId)
    (keeps : ∀ state, state.Managed taskId → (change state).Managed taskId) :
    (manager.update taskId change).windows.Every fun taskId state => state.Managed taskId := by
  unfold ChallengeWindowManager.update
  cases there : manager.windows.get taskId with
  | none => exact managed
  | some state => exact managed.set (keeps state (managed taskId state there))

theorem managed_raiseChallenge {next : ChallengeWindowState}
    {challenger reason evidenceCid suffix : String} (managed : state.Managed taskId)
    (raised : ChallengeWindowManager.raiseChallenge now state challenger reason evidenceCid suffix =
      .ok next) : next.Managed taskId := by
  simp only [ChallengeWindowManager.raiseChallenge, require_bind_eq_ok] at raised
  obtain ⟨-, -, is⟩ := raised
  obtain rfl := Except.ok.inj is
  exact ⟨managed.task, by simp⟩

theorem managed_resolveChallenge {next : ChallengeWindowState} {decision : ChallengeDecision}
    (managed : state.Managed taskId)
    (resolved : ChallengeWindowManager.resolveChallenge now state decision = .ok next) :
    next.Managed taskId := by
  unfold ChallengeWindowManager.resolveChallenge at resolved
  cases challenge : state.challenge with
  | none => simp [challenge] at resolved
  | some record =>
      simp only [challenge] at resolved
      obtain rfl := Except.ok.inj resolved
      cases decision with
      | upheld => exact ⟨managed.task, nofun⟩
      | overruled =>
          have synced : (ChallengeWindowManager.synced now state).Managed taskId := managed.synced
          exact ⟨synced.task, synced.begun⟩

theorem managed_perform (managed : manager.windows.Every fun taskId state => state.Managed taskId)
    (action : WindowAction) :
    (manager.perform action).windows.Every fun taskId state => state.Managed taskId := by
  cases action with
  | openWindow now taskId evidenceHash taskType durationSeconds =>
      rw [ChallengeWindowManager.perform]
      cases opened : manager.openWindow now taskId evidenceHash taskType durationSeconds with
      | error => exact managed
      | ok next =>
          simp only [ChallengeWindowManager.openWindow, require_bind_eq_ok] at opened
          obtain ⟨-, -, is⟩ := opened
          obtain rfl := Except.ok.inj is
          exact managed.set ⟨rfl, nofun⟩
  | ask now taskId => exact managed_update managed fun _ managed => managed.synced
  | raiseChallenge now taskId challenger reason evidenceCid suffix =>
      refine managed_update managed fun state managed => ?_
      cases raised : ChallengeWindowManager.raiseChallenge now
          (ChallengeWindowManager.synced now state) challenger reason evidenceCid suffix with
      | error => exact managed.synced
      | ok next => exact managed_raiseChallenge managed.synced raised
  | resolveChallenge now taskId decision =>
      refine managed_update managed fun state managed => ?_
      cases resolved : ChallengeWindowManager.resolveChallenge now state decision with
      | error => exact managed
      | ok next => exact managed_resolveChallenge managed resolved

/-- The windows of a manager are those of their tasks, and begun. -/
theorem managed_of_reachable (reachable : (windowSystem defaultDurationSeconds).Reachable manager) :
    manager.windows.Every fun taskId state => state.Managed taskId := by
  refine reachable.invariant ?_ ?_
  · rintro manager rfl
    exact Table.every_empty _
  · rintro manager action next _ managed rfl
    exact managed_perform managed action

/-- A managed window is closed if it is neither open nor disputed. -/
theorem closed_of_reachable (reachable : (windowSystem defaultDurationSeconds).Reachable manager)
    (there : manager.windows.get taskId = some state) (notOpen : state.window.status ≠ .opened)
    (undisputed : state.window.status ≠ .disputed) : state.window.status = .closed := by
  have begun := (managed_of_reachable reachable taskId state there).begun
  cases status : state.window.status with
  | pending => exact absurd status begun
  | opened => exact absurd status notOpen
  | closed => rfl
  | disputed => exact absurd status undisputed

/-- A closed window stays closed. -/
theorem canSettle_of_closed (closed : window.status = .closed) : canSettle now window = true := by
  simp [canSettle, syncWindowStatus, closed]

/-- While time remains a window is open, and neither closed nor to be settled. -/
theorem open_of_remaining (remains : 0 < getRemainingSeconds now window) :
    isWindowOpen now window = true ∧ isWindowClosed now window = false ∧
      canSettle now window = false := by
  unfold getRemainingSeconds at remains
  split at remains
  case isTrue => exact absurd remains (lt_irrefl 0)
  case isFalse opened =>
    rw [not_not] at opened
    simp [isWindowOpen, isWindowClosed, canSettle, opened]

end Managed

end TrustChain.Verifier
