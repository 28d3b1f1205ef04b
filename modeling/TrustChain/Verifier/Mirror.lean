import TrustChain.Gateway.Effects
import TrustChain.Verifier.Windows

/-!
# Challenge windows against the gateway

The manager keeps the challenge window of a task off chain, the gateway on chain. Here every
call on one side is matched by the call on the other at the same moment and with the same
duration; whatever else happens to the three contracts happens between. The two sides stay in
step, and answer alike, in the runs that keep clear of a few moments and sequences.
-/

namespace TrustChain.Verifier.Mirror

open Library Function

/-- Names of the tasks off chain, one for each task identifier. -/
structure Naming where
  taskId : Bytes32 → TaskId
  injective : Injective taskId

/-- A moment from the first second on, with the block that is mined in its second. -/
structure Moment where
  time : Time
  second_le : second ≤ time

def Moment.timestamp (moment : Moment) : Nat := (moment.time / second).toNat

theorem Moment.timestamp_eq (moment : Moment) : (moment.timestamp : Int) = moment.time / second :=
  Int.toNat_of_nonneg (Int.ediv_nonneg (le_trans (by decide) moment.second_le) (by decide))

/-- A block is mined no later than a second exactly if the moment is before the next one. -/
theorem Moment.timestamp_le_iff (moment : Moment) (bound : Nat) :
    moment.timestamp ≤ bound ↔ moment.time < ((bound : Int) + 1) * second := by
  rw [← Nat.lt_succ_iff, ← Int.ofNat_lt, moment.timestamp_eq]
  exact Int.ediv_lt_iff_lt_mul (by decide)

theorem Moment.le_timestamp_iff (moment : Moment) (bound : Nat) :
    bound ≤ moment.timestamp ↔ bound * second ≤ moment.time := by
  rw [← Int.ofNat_le, moment.timestamp_eq]
  exact Int.le_ediv_iff_mul_le (by decide)

theorem Moment.timestamp_pos (moment : Moment) : 0 < moment.timestamp := by
  refine (moment.le_timestamp_iff 1).mpr ?_
  simpa using moment.second_le

def Moment.message (moment : Moment) (sender : Address) : Gateway.Message :=
  ⟨sender, moment.timestamp, moment.timestamp_pos⟩

/-- Both sides, and the time that they have reached. -/
structure World where
  manager : ChallengeWindowManager
  gateway : Gateway.World
  clock : Time

/-- A call made on both sides, or a step of the contracts that has no counterpart. The
arbitrator is the one who resolves a challenge. -/
inductive Action (deployment : Gateway.Deployment) where
  | publish (moment : Moment) (sender : Address) (taskId evidenceHash : Bytes32)
      (cid evidenceText taskType : String) (durationSeconds : Option Int)
  | challenge (moment : Moment) (sender : Address) (taskId : Bytes32)
      (challenger reason evidenceCid suffix : String)
  | resolve (moment : Moment) (taskId : Bytes32) (decision : ChallengeDecision)
  | ask (moment : Moment) (taskId : Bytes32)
  | aside (action : Gateway.Action deployment)

/-- The calls of the gateway that have a counterpart off chain. -/
def mirrored : Gateway.Call → Bool
  | .publishEvidence .. | .raiseChallenge .. | .resolveChallenge .. => true
  | .submitAttestation .. | .settleWithAttestation .. | .setChallengeWindowDuration .. => false

/-- A step of the contracts that has no counterpart off chain. -/
def isAside {deployment : Gateway.Deployment} : Gateway.Action deployment → Bool
  | .bilateral _ | .registry .. => true
  | .gateway _ _ call => !mirrored call

section Functions

variable (deployment : Gateway.Deployment) (naming : Naming) (world : World) (moment : Moment)

/-- The gateway as a transaction in the moment's block finds it. -/
def World.mined : Gateway.World := { world.gateway with now := moment.timestamp }

/-- Both sides at one moment; a transaction that reverts leaves the gateway alone. -/
def World.both (sender : Address) (call : Gateway.Call) (action : WindowAction) : World where
  manager := world.manager.perform action
  gateway := (Gateway.dispatch deployment {} (moment.message sender) (world.mined moment)
    call).toOption.getD world.gateway
  clock := moment.time

/-- Perform an action, if it is possible now. Evidence is published for the same duration on
both sides. -/
def perform : Action deployment → Option World
  | .publish moment sender taskId evidenceHash cid evidenceText taskType durationSeconds =>
      if world.clock ≤ moment.time ∧
          durationSeconds.getD world.manager.defaultDurationSeconds =
            world.gateway.storage.challengeWindowDuration then
        some (world.both deployment moment sender (.publishEvidence taskId evidenceHash cid)
          (.openWindow moment.time (naming.taskId taskId) evidenceText taskType durationSeconds))
      else none
  | .challenge moment sender taskId challenger reason evidenceCid suffix =>
      if world.clock ≤ moment.time then
        some (world.both deployment moment sender (.raiseChallenge taskId reason evidenceCid)
          (.raiseChallenge moment.time (naming.taskId taskId) challenger reason evidenceCid suffix))
      else none
  | .resolve moment taskId decision =>
      if world.clock ≤ moment.time then
        some (world.both deployment moment deployment.arbitrator
          (.resolveChallenge taskId (decision = .upheld))
          (.resolveChallenge moment.time (naming.taskId taskId) decision))
      else none
  | .ask moment taskId =>
      if world.clock ≤ moment.time then
        some { world with
          manager := world.manager.perform (.ask moment.time (naming.taskId taskId))
          clock := moment.time }
      else none
  | .aside action =>
      if isAside action then
        (Gateway.perform deployment world.gateway action).map fun gateway =>
          { world with gateway, clock := max world.clock (gateway.now * second) }
      else none

def system (defaultDurationSeconds : Int) : TransitionSystem World (Action deployment) where
  Init world := (Gateway.system deployment).Init world.gateway ∧
    world.manager = { defaultDurationSeconds } ∧ world.clock = world.gateway.now * second
  Step world action next := perform deployment naming world action = some next

end Functions

/-! ## What the two sides answer -/

/-- Gates 3 and 4 of `settleWithAttestation`. -/
def challengeGate (storage : Gateway.Storage) (timestamp : Nat) (taskId : Bytes32) : Bool :=
  storage.challengeEnd taskId ≤ timestamp ∧ (storage.requireUnchallenged taskId).toOption.isSome

/-- The decision on the challenge of a task on chain. -/
def onChainDecision (storage : Gateway.Storage) (taskId : Bytes32) : Option ChallengeDecision :=
  if storage.challengeResolved taskId then
    some (if storage.challengeUpheld taskId then .upheld else .overruled)
  else none

/-- The decision off chain. -/
def offChainDecision (manager : ChallengeWindowManager) (taskId : TaskId) :
    Option ChallengeDecision :=
  (manager.windows.get taskId).bind fun state => state.challenge.bind (·.decision)

/-- Whether `raise_challenge` accepts. -/
def acceptsChallenge (manager : ChallengeWindowManager) (now : Time) (taskId : TaskId)
    (challenger reason evidenceCid suffix : String) : Bool :=
  match manager.windows.get taskId with
  | none => false
  | some state =>
      (ChallengeWindowManager.raiseChallenge now (ChallengeWindowManager.synced now state)
        challenger reason evidenceCid suffix).toOption.isSome

/-- Whether `resolve_challenge` accepts. -/
def acceptsDecision (manager : ChallengeWindowManager) (now : Time) (taskId : TaskId)
    (decision : ChallengeDecision) : Bool :=
  match manager.windows.get taskId with
  | none => false
  | some state => (ChallengeWindowManager.resolveChallenge now state decision).toOption.isSome

section Divergence

variable (deployment : Gateway.Deployment) (naming : Naming) (world : World)

/-- Whether the gateway accepts a call. -/
def World.mines (moment : Moment) (sender : Address) (call : Gateway.Call) : Bool :=
  (Gateway.dispatch deployment {} (moment.message sender) (world.mined moment)
    call).toOption.isSome

/-- The two sides answer differently, or one of them accepts a second decision. -/
def Diverges : Action deployment → Prop
  | .challenge moment sender taskId challenger reason evidenceCid suffix =>
      acceptsChallenge world.manager moment.time (naming.taskId taskId) challenger reason
          evidenceCid suffix ≠
        world.mines deployment moment sender (.raiseChallenge taskId reason evidenceCid)
  | .resolve moment taskId decision =>
      (onChainDecision world.gateway.storage taskId ≠ none ∧
        world.mines deployment moment deployment.arbitrator
          (.resolveChallenge taskId (decision = .upheld))) ∨
      (offChainDecision world.manager (naming.taskId taskId) ≠ none ∧
        acceptsDecision world.manager moment.time (naming.taskId taskId) decision)
  | .ask moment taskId => ∃ state, world.manager.windows.get (naming.taskId taskId) = some state ∧
      canSettle moment.time state.window ≠
        challengeGate world.gateway.storage moment.timestamp taskId
  | .publish .. | .aside _ => False

/-- A decision is changed on one of the sides. -/
def Redecides (next : World) : Prop :=
  ∃ taskId decision,
    (onChainDecision world.gateway.storage taskId = some decision ∧
      onChainDecision next.gateway.storage taskId ≠ some decision) ∨
    (offChainDecision world.manager (naming.taskId taskId) = some decision ∧
      offChainDecision next.manager (naming.taskId taskId) ≠ some decision)

end Divergence

/-! ## The two sides in step -/

/-- The window of a task is what the gateway has of it. -/
structure Mirrors (clock : Time) (storage : Gateway.Storage) (taskId : Bytes32)
    (state : ChallengeWindowState) : Prop where
  published : storage.taskEvidence taskId ≠ 0
  endAt_eq : state.window.endAt = storage.challengeEnd taskId * second
  challenged_eq : storage.challenged taskId = state.challenge.isSome
  decision_eq : onChainDecision storage taskId = state.challenge.bind (·.decision)
  disputed : state.challenge.isSome → state.window.status = .disputed
  undisputed : state.challenge = none → state.window.status = .opened ∨
    state.window.status = .closed ∧ state.window.endAt < clock

/-- Nothing of a task is on chain. -/
structure Unknown (storage : Gateway.Storage) (taskId : Bytes32) : Prop where
  unpublished : storage.taskEvidence taskId = 0
  unchallenged : storage.challenged taskId = false
  undecided : onChainDecision storage taskId = none

/-- The two sides have the same of a task. -/
def TaskInStep (naming : Naming) (world : World) (taskId : Bytes32) : Prop :=
  match world.manager.windows.get (naming.taskId taskId) with
  | none => Unknown world.gateway.storage taskId
  | some state => Mirrors world.clock world.gateway.storage taskId state

def InStep (naming : Naming) (world : World) : Prop := ∀ taskId, TaskInStep naming world taskId

/-- The duration that `open_window` makes of the one it is given. -/
def ChallengeWindowManager.effective (manager : ChallengeWindowManager)
    (durationSeconds : Option Int) : Int :=
  (durationSeconds.filter (· ≠ 0)).getD manager.defaultDurationSeconds

/-- The steps that keep the two sides in step, and on which they answer alike: evidence is
published under a hash other than zero, for a duration that `open_window` takes as it is and
that the calendar has room for; no challenge is raised within the last second of a window but
after its last moment; a challenge is resolved once; nobody asks in the last moment of a window,
or from then on if its challenge was overruled. -/
def Aligned {deployment : Gateway.Deployment} (world : World) : Action deployment → Prop
  | .publish moment _ taskId evidenceHash _ _ _ durationSeconds =>
      let storage := world.gateway.storage
      let duration := ChallengeWindowManager.effective world.manager durationSeconds
      storage.taskEvidence taskId = 0 →
        if inCalendar ((moment.timestamp + duration) * second) then
          evidenceHash ≠ 0 ∧ duration = storage.challengeWindowDuration
        else evidenceHash = 0 ∨ wordSize ≤ moment.timestamp + storage.challengeWindowDuration
  | .challenge moment _ taskId _ _ _ _ =>
      let storage := world.gateway.storage
      storage.taskEvidence taskId ≠ 0 → storage.challenged taskId = false →
        moment.time ≤ storage.challengeEnd taskId * second ∨
          (storage.challengeEnd taskId + 1) * second ≤ moment.time
  | .resolve _ taskId _ => onChainDecision world.gateway.storage taskId = none
  | .ask moment taskId =>
      let storage := world.gateway.storage
      storage.taskEvidence taskId ≠ 0 →
        (storage.challenged taskId = false → moment.time ≠ storage.challengeEnd taskId * second) ∧
          (onChainDecision storage taskId = some .overruled →
            moment.time < storage.challengeEnd taskId * second)
  | .aside _ => True

/-! ## One call on both sides -/

section Calls

variable {deployment : Gateway.Deployment} {world : World} {moment : Moment} {sender : Address}
  {taskId other : Bytes32} {manager : ChallengeWindowManager} {storage : Gateway.Storage}
  {state : ChallengeWindowState}

theorem get_update (manager : ChallengeWindowManager) (taskId other : TaskId)
    (change : ChallengeWindowState → ChallengeWindowState) :
    (manager.update taskId change).windows.get other =
      if other = taskId then (manager.windows.get taskId).map change
      else manager.windows.get other := by
  unfold ChallengeWindowManager.update
  cases there : manager.windows.get taskId with
  | none =>
      change manager.windows.get other = _
      split
      case isTrue same => rw [same, there, Option.map_none]
      case isFalse => rfl
  | some state =>
      rw [Table.get_set]
      rfl

/-- The window that `open_window` makes. -/
def openedWindow (moment : Moment) (taskId : TaskId) (evidenceText : String) (duration : Int) :
    ChallengeWindowState where
  window := {
    challengeId := "challenge-" ++ taskId
    taskId
    evidenceHash := evidenceText
    startAt := moment.timestamp * second
    endAt := moment.timestamp * second + duration * second
    durationSeconds := duration
    status := .opened }

theorem get_openWindow (manager : ChallengeWindowManager) (moment : Moment) (id other : TaskId)
    (evidenceText taskType : String) (durationSeconds : Option Int) :
    (manager.perform (.openWindow moment.time id evidenceText taskType
        durationSeconds)).windows.get other =
      if other = id ∧ manager.windows.get id = none ∧ inCalendar
          ((moment.timestamp + ChallengeWindowManager.effective manager durationSeconds) * second)
      then some (openedWindow moment id evidenceText
        (ChallengeWindowManager.effective manager durationSeconds))
      else manager.windows.get other := by
  have start_eq : moment.time / second * second = moment.timestamp * second := by
    rw [moment.timestamp_eq]
  simp only [ChallengeWindowManager.perform, ChallengeWindowManager.openWindow, start_eq, add_mul]
  change (Except.toOption (require _ _ >>= fun _ => require (inCalendar (_ +
    ChallengeWindowManager.effective manager durationSeconds * second)) _ >>= fun _ => _)
    |>.getD manager).windows.get other = _
  by_cases fresh : manager.windows.get id = none
  · by_cases fits : inCalendar (moment.timestamp * second +
        ChallengeWindowManager.effective manager durationSeconds * second)
    · simp only [require, fresh, fits, if_true, ok_bind, and_true]
      change (manager.windows.set id _).get other = _
      rw [Table.get_set]
      rfl
    · simp only [require, fresh, fits, if_true, if_false, ok_bind, error_bind, and_false]
      rfl
  · simp only [require, fresh, if_false, error_bind, false_and, and_false]
    rfl

/-- The gateway after a call on both sides. -/
theorem both_gateway (deployment : Gateway.Deployment) (world : World) (moment : Moment)
    (sender : Address) (call : Gateway.Call) (action : WindowAction) :
    (world.both deployment moment sender call action).gateway = world.gateway ∧
        world.mines deployment moment sender call = false ∨
      Gateway.dispatch deployment {} (moment.message sender) (world.mined moment) call =
          .ok (world.both deployment moment sender call action).gateway ∧
        world.mines deployment moment sender call = true := by
  unfold World.both World.mines
  cases ran : Gateway.dispatch deployment {} (moment.message sender) (world.mined moment) call with
  | error => exact .inl ⟨rfl, rfl⟩
  | ok next => exact .inr ⟨rfl, rfl⟩

theorem mines_iff {call : Gateway.Call} :
    world.mines deployment moment sender call = true ↔
      ∃ next, Gateway.dispatch deployment {} (moment.message sender) (world.mined moment) call =
        .ok next := by
  simp only [World.mines, Option.isSome_iff_exists, toOption_eq_some]

theorem mines_publish {evidenceHash : Bytes32} {cid : String} :
    world.mines deployment moment sender (.publishEvidence taskId evidenceHash cid) = true ↔
      world.gateway.storage.taskEvidence taskId = 0 ∧
        moment.timestamp + world.gateway.storage.challengeWindowDuration < wordSize := by
  simp only [mines_iff, Gateway.dispatch, Gateway.publishEvidence,
    require_bind_eq_ok, checkedAdd_bind_eq_ok, Except.ok.injEq]
  constructor
  · rintro ⟨next, unpublished, fits, -⟩
    exact ⟨unpublished, fits⟩
  · rintro ⟨unpublished, fits⟩
    exact ⟨_, unpublished, fits, rfl⟩

theorem mines_challenge {reason cid : String} :
    world.mines deployment moment sender (.raiseChallenge taskId reason cid) = true ↔
      world.gateway.storage.taskEvidence taskId ≠ 0 ∧
        moment.timestamp ≤ world.gateway.storage.challengeEnd taskId ∧
        world.gateway.storage.challenged taskId = false := by
  simp only [mines_iff, Gateway.dispatch, Gateway.raiseChallenge,
    require_bind_eq_ok, Except.ok.injEq]
  constructor
  · rintro ⟨next, published, early, unchallenged, -⟩
    exact ⟨published, early, unchallenged⟩
  · rintro ⟨published, early, unchallenged⟩
    exact ⟨_, published, early, unchallenged, rfl⟩

theorem mines_resolve {upheld : Bool} :
    world.mines deployment moment deployment.arbitrator (.resolveChallenge taskId upheld) = true ↔
      world.gateway.storage.challenged taskId = true ∧
        world.gateway.storage.challengeResolved taskId = false := by
  simp only [mines_iff, Gateway.dispatch, Gateway.resolveChallenge,
    require_bind_eq_ok, Except.ok.injEq]
  constructor
  · rintro ⟨next, -, challenged, unresolved, -⟩
    exact ⟨challenged, unresolved⟩
  · rintro ⟨challenged, unresolved⟩
    exact ⟨_, rfl, challenged, unresolved, rfl⟩

/-- The storage after a call on both sides is the one that a transaction leaves, if it is mined. -/
theorem storage_both {call : Gateway.Call} {action : WindowAction} {storage : Gateway.Storage}
    (leaves : ∀ next, Gateway.Effect deployment {} (moment.message sender) (world.mined moment) call
      next → next.storage = storage) :
    (world.both deployment moment sender call action).gateway.storage =
      if world.mines deployment moment sender call then storage else world.gateway.storage := by
  rcases both_gateway deployment world moment sender call action with
    ⟨same, rejected⟩ | ⟨ran, mined⟩
  · rw [same, rejected, if_neg Bool.false_ne_true]
  · rw [mined, if_pos rfl]
    exact leaves _ (Gateway.dispatch_effect ran)

theorem storage_publish (deployment : Gateway.Deployment) (world : World) (moment : Moment)
    (sender : Address) (taskId evidenceHash : Bytes32) (cid : String) (action : WindowAction) :
    (world.both deployment moment sender (.publishEvidence taskId evidenceHash cid)
        action).gateway.storage =
      let storage := world.gateway.storage
      if world.mines deployment moment sender (.publishEvidence taskId evidenceHash cid) then
        { storage with
          taskEvidence := update storage.taskEvidence taskId evidenceHash
          taskEvidenceCid := update storage.taskEvidenceCid taskId cid
          challengeEnd := update storage.challengeEnd taskId
            (moment.timestamp + storage.challengeWindowDuration) }
      else storage := by
  apply storage_both
  intro next effect
  cases effect with
  | published => rfl

theorem storage_challenge (deployment : Gateway.Deployment) (world : World) (moment : Moment)
    (sender : Address) (taskId : Bytes32) (reason cid : String) (action : WindowAction) :
    (world.both deployment moment sender (.raiseChallenge taskId reason cid)
        action).gateway.storage =
      let storage := world.gateway.storage
      if world.mines deployment moment sender (.raiseChallenge taskId reason cid) then
        { storage with challenged := update storage.challenged taskId true }
      else storage := by
  apply storage_both
  intro next effect
  cases effect with
  | challenged => rfl

theorem storage_resolve (deployment : Gateway.Deployment) (world : World) (moment : Moment)
    (sender : Address) (taskId : Bytes32) (upheld : Bool) (action : WindowAction) :
    (world.both deployment moment sender (.resolveChallenge taskId upheld)
        action).gateway.storage =
      let storage := world.gateway.storage
      if world.mines deployment moment sender (.resolveChallenge taskId upheld) then
        { storage with
          challengeResolved := update storage.challengeResolved taskId true
          challengeUpheld := update storage.challengeUpheld taskId upheld }
      else storage := by
  apply storage_both
  intro next effect
  cases effect with
  | resolved => rfl

end Calls

/-! ## Tasks that a step does not touch -/

/-- All that the two sides compare of a task on chain. -/
structure SameTask (storage next : Gateway.Storage) (taskId : Bytes32) : Prop where
  evidence_eq : next.taskEvidence taskId = storage.taskEvidence taskId
  challengeEnd_eq : next.challengeEnd taskId = storage.challengeEnd taskId
  challenged_eq : next.challenged taskId = storage.challenged taskId
  resolved_eq : next.challengeResolved taskId = storage.challengeResolved taskId
  upheld_eq : next.challengeUpheld taskId = storage.challengeUpheld taskId

section Frames

variable {deployment : Gateway.Deployment} {naming : Naming} {world next : World} {moment : Moment}
  {sender : Address} {taskId other : Bytes32} {storage after : Gateway.Storage}
  {state : ChallengeWindowState} {clock later : Time} {call : Gateway.Call}

theorem SameTask.refl (storage : Gateway.Storage) (taskId : Bytes32) :
    SameTask storage storage taskId :=
  ⟨rfl, rfl, rfl, rfl, rfl⟩

theorem SameTask.decision_eq (same : SameTask storage after taskId) :
    onChainDecision after taskId = onChainDecision storage taskId := by
  unfold onChainDecision
  rw [same.resolved_eq, same.upheld_eq]

theorem Unknown.congr (unknown : Unknown storage taskId) (same : SameTask storage after taskId) :
    Unknown after taskId where
  unpublished := same.evidence_eq.trans unknown.unpublished
  unchallenged := same.challenged_eq.trans unknown.unchallenged
  undecided := same.decision_eq.trans unknown.undecided

theorem Mirrors.congr (mirrors : Mirrors clock storage taskId state)
    (same : SameTask storage after taskId) (before : clock ≤ later) :
    Mirrors later after taskId state where
  published := by
    rw [same.evidence_eq]
    exact mirrors.published
  endAt_eq := by
    rw [same.challengeEnd_eq]
    exact mirrors.endAt_eq
  challenged_eq := same.challenged_eq.trans mirrors.challenged_eq
  decision_eq := same.decision_eq.trans mirrors.decision_eq
  disputed := mirrors.disputed
  undisputed unchallenged := by
    rcases mirrors.undisputed unchallenged with opened | ⟨closed, passed⟩
    · exact .inl opened
    · exact .inr ⟨closed, passed.trans_le before⟩

/-- What stays in step without being touched. -/
theorem TaskInStep.congr (inStep : TaskInStep naming world taskId)
    (sameWindow : next.manager.windows.get (naming.taskId taskId) =
      world.manager.windows.get (naming.taskId taskId))
    (same : SameTask world.gateway.storage next.gateway.storage taskId)
    (before : world.clock ≤ next.clock) : TaskInStep naming next taskId := by
  unfold TaskInStep at inStep ⊢
  rw [sameWindow]
  cases there : world.manager.windows.get (naming.taskId taskId) with
  | none =>
      rw [there] at inStep
      exact inStep.congr same
  | some state =>
      rw [there] at inStep
      exact inStep.congr same before

/-- The task that an action on both sides is about. -/
def subject : Gateway.Call → Option Bytes32
  | .publishEvidence taskId .. | .raiseChallenge taskId .. | .resolveChallenge taskId .. =>
      some taskId
  | .submitAttestation .. | .settleWithAttestation .. | .setChallengeWindowDuration .. => none

/-- A call of the gateway leaves every task alone but its subject, and no decision is changed. -/
theorem effect_sameTask {ext : Gateway.Externals} {msg : Gateway.Message} (before : Gateway.World)
    {after : Gateway.World} (effect : Gateway.Effect deployment ext msg before call after)
    (different : some other ≠ subject call) : SameTask before.storage after.storage other := by
  cases effect with
  | published taskId evidenceHash cid events unpublished =>
      have apart : other ≠ taskId := fun same => different (congrArg some same)
      exact ⟨update_of_ne apart _ _, update_of_ne apart _ _, rfl, rfl, rfl⟩
  | attested taskId v r s valid storage tokens registry registryEvents events _ _ _ _ counting =>
      rw [Gateway.count_ok counting]
      exact ⟨rfl, rfl, rfl, rfl, rfl⟩
  | settled => exact .refl _ _
  | challenged taskId reason evidenceCid events published early unchallenged =>
      have apart : other ≠ taskId := fun same => different (congrArg some same)
      exact ⟨rfl, rfl, update_of_ne apart _ _, rfl, rfl⟩
  | resolved taskId upheld events arbitrator challenged unresolved =>
      have apart : other ≠ taskId := fun same => different (congrArg some same)
      exact ⟨rfl, rfl, rfl, update_of_ne apart _ _, update_of_ne apart _ _⟩
  | configured => exact ⟨rfl, rfl, rfl, rfl, rfl⟩

theorem aside_sameTask {action : Gateway.Action deployment} {before after : Gateway.World}
    (aside : isAside action = true)
    (step : (Gateway.system deployment).Step before action after) :
    SameTask before.storage after.storage taskId := by
  cases Gateway.step_happened step with
  | bilateral => exact .refl _ _
  | registry => exact .refl _ _
  | gateway msg ext call next later effect =>
      refine effect_sameTask { before with now := msg.timestamp } effect ?_
      cases call with
      | publishEvidence | raiseChallenge | resolveChallenge => simp [isAside, mirrored] at aside
      | submitAttestation | settleWithAttestation | setChallengeWindowDuration => simp [subject]

theorem both_sameTask {action : WindowAction} (different : some other ≠ subject call) :
    SameTask world.gateway.storage
      (world.both deployment moment sender call action).gateway.storage other := by
  rcases both_gateway deployment world moment sender call action with ⟨same, -⟩ | ⟨ran, -⟩
  · rw [same]
    exact .refl _ _
  · exact effect_sameTask (world.mined moment) (Gateway.dispatch_effect ran) different

/-- A decision on chain is never changed. -/
theorem effect_decision {ext : Gateway.Externals} {msg : Gateway.Message} (before : Gateway.World)
    {after : Gateway.World} {decision : ChallengeDecision}
    (effect : Gateway.Effect deployment ext msg before call after)
    (decided : onChainDecision before.storage taskId = some decision) :
    onChainDecision after.storage taskId = some decision := by
  by_cases different : some taskId ≠ subject call
  · exact (effect_sameTask before effect different).decision_eq.trans decided
  · rw [not_not] at different
    cases effect with
    | published | challenged => exact decided
    | resolved resolvedId upheld events arbitrator challenged unresolved =>
        obtain rfl := Option.some.inj different
        simp [onChainDecision, unresolved] at decided
    | attested | settled | configured => simp [subject] at different

theorem step_decision {action : Action deployment} {decision : ChallengeDecision}
    (step : perform deployment naming world action = some next)
    (decided : onChainDecision world.gateway.storage taskId = some decision) :
    onChainDecision next.gateway.storage taskId = some decision := by
  have called : ∀ moment sender call action,
      onChainDecision (world.both deployment moment sender call action).gateway.storage taskId =
        some decision := by
    intro moment sender call action
    rcases both_gateway deployment world moment sender call action with ⟨same, -⟩ | ⟨ran, -⟩
    · rw [same]
      exact decided
    · exact effect_decision (world.mined moment) (Gateway.dispatch_effect ran) decided
  cases action with
  | publish | challenge | resolve =>
      simp only [perform, Option.ite_none_right_eq_some, Option.some.injEq] at step
      obtain ⟨-, rfl⟩ := step
      exact called _ _ _ _
  | ask =>
      simp only [perform, Option.ite_none_right_eq_some, Option.some.injEq] at step
      obtain ⟨-, rfl⟩ := step
      exact decided
  | aside action =>
      simp only [perform, Option.ite_none_right_eq_some, Option.map_eq_some_iff] at step
      obtain ⟨aside, gateway, performed, rfl⟩ := step
      exact (aside_sameTask aside performed).decision_eq.trans decided

end Frames

/-! ## Each call, in step or not -/

section Each

variable {deployment : Gateway.Deployment} {naming : Naming} {world next : World}
  {moment : Moment} {sender : Address} {taskId : Bytes32}

/-- What is in step without a window is unknown on chain, and with one it is mirrored. -/
theorem TaskInStep.none_iff (there : world.manager.windows.get (naming.taskId taskId) = none) :
    TaskInStep naming world taskId ↔ Unknown world.gateway.storage taskId := by
  unfold TaskInStep
  rw [there]

theorem TaskInStep.some_iff {state : ChallengeWindowState}
    (there : world.manager.windows.get (naming.taskId taskId) = some state) :
    TaskInStep naming world taskId ↔ Mirrors world.clock world.gateway.storage taskId state := by
  unfold TaskInStep
  rw [there]

/-- In step, the two sides have the same decision. -/
theorem TaskInStep.decision_eq (inStep : TaskInStep naming world taskId) :
    offChainDecision world.manager (naming.taskId taskId) =
      onChainDecision world.gateway.storage taskId := by
  unfold offChainDecision
  cases there : world.manager.windows.get (naming.taskId taskId) with
  | none => exact ((none_iff there).mp inStep).undecided.symm
  | some state => exact ((some_iff there).mp inStep).decision_eq.symm

theorem duration_eq_of_end {timestamp duration : Nat} {effective : Int}
    (same : (timestamp : Int) * second + effective * second = (timestamp + duration : Nat) * second) :
    effective = duration := by
  have positive : second ≠ 0 := by decide
  rw [← add_mul] at same
  have sum := mul_right_cancel₀ positive same
  push_cast at sum
  exact add_left_cancel sum

/-- A window that ends within the calendar ends within a word. -/
theorem fits_of_inCalendar {timestamp duration : Nat}
    (fits : inCalendar (((timestamp : Int) + duration) * second)) :
    timestamp + duration < wordSize := by
  have early : ((timestamp : Int) + duration) < 253402300800 :=
    Int.lt_of_mul_lt_mul_right fits.2 (by decide)
  have narrow : (253402300800 : Nat) < wordSize := by decide
  omega

/-- Publication keeps the task in step exactly if it is aligned. -/
theorem publish_inStep {evidenceHash : Bytes32} {cid evidenceText taskType : String}
    {durationSeconds : Option Int} (inStep : TaskInStep naming world taskId)
    (before : world.clock ≤ moment.time) :
    TaskInStep naming (world.both deployment moment sender (.publishEvidence taskId evidenceHash cid)
        (.openWindow moment.time (naming.taskId taskId) evidenceText taskType durationSeconds))
        taskId ↔
      Aligned world (.publish moment sender taskId evidenceHash cid evidenceText taskType
        durationSeconds : Action deployment) := by
  have window := get_openWindow world.manager moment (naming.taskId taskId) (naming.taskId taskId)
    evidenceText taskType durationSeconds
  have stored := storage_publish deployment world moment sender taskId evidenceHash cid
    (.openWindow moment.time (naming.taskId taskId) evidenceText taskType durationSeconds)
  cases there : world.manager.windows.get (naming.taskId taskId) with
  | some state =>
      have published := ((TaskInStep.some_iff there).mp inStep).published
      refine iff_of_true ?_ fun unpublished => absurd unpublished published
      refine inStep.congr ?_ ?_ before
      · rw [if_neg (by simp [there])] at window
        exact window
      · rw [stored, if_neg fun mined => published (mines_publish.mp mined).1]
        exact .refl _ _
  | none =>
      have unknown := (TaskInStep.none_iff there).mp inStep
      have fresh := unknown.unpublished
      simp only [Aligned, fresh, forall_const]
      simp only [there, true_and] at window
      by_cases fits : inCalendar ((moment.timestamp +
          ChallengeWindowManager.effective world.manager durationSeconds) * second)
      · rw [if_pos fits] at window
        rw [TaskInStep.some_iff window, if_pos fits]
        constructor
        · intro mirrors
          have published := mirrors.published
          have ending := mirrors.endAt_eq
          by_cases mined : world.mines deployment moment sender
              (.publishEvidence taskId evidenceHash cid) = true
          · simp only [stored, mined, if_true, update_self] at published ending
            exact ⟨published, duration_eq_of_end ending⟩
          · simp only [stored, mined] at published
            exact absurd fresh published
        · rintro ⟨nonzero, alike⟩
          have mined : world.mines deployment moment sender
              (.publishEvidence taskId evidenceHash cid) = true := by
            refine mines_publish.mpr ⟨fresh, fits_of_inCalendar ?_⟩
            rw [← alike]
            exact fits
          rw [stored, if_pos mined]
          refine ⟨?_, ?_, unknown.unchallenged, unknown.undecided, fun raised => ?_, fun _ => ?_⟩
          · simpa using nonzero
          · simp only [update_self, openedWindow, alike]
            push_cast
            exact (add_mul _ _ _).symm
          · simp [openedWindow] at raised
          · exact .inl rfl
      · rw [if_neg fits] at window
        rw [TaskInStep.none_iff window, if_neg fits, stored]
        by_cases mined : world.mines deployment moment sender
            (.publishEvidence taskId evidenceHash cid) = true
        · have narrow := (mines_publish.mp mined).2
          rw [if_pos mined]
          constructor
          · intro after
            refine .inl ?_
            simpa using after.unpublished
          · rintro (zero | wide)
            · exact ⟨by simpa using zero, unknown.unchallenged, unknown.undecided⟩
            · exact absurd narrow wide.not_gt
        · rw [if_neg mined]
          refine iff_of_true unknown (.inr (not_lt.mp fun narrow => mined ?_))
          exact mines_publish.mpr ⟨fresh, narrow⟩

/-! ### Challenges -/

variable {state : ChallengeWindowState} {storage : Gateway.Storage} {clock now : Time}

variable (mirrors : Mirrors clock storage taskId state) {decision : ChallengeDecision}
  {challenger reason evidenceCid suffix : String}

include mirrors

/-- An unchallenged window is open until its last moment. -/
theorem Mirrors.opened_iff (unchallenged : state.challenge = none) (before : clock ≤ now) :
    (syncWindowStatus now state.window).status = .opened ↔ now ≤ state.window.endAt := by
  unfold syncWindowStatus
  rcases mirrors.undisputed unchallenged with opened | ⟨closed, passed⟩
  · by_cases late : state.window.endAt < now
    · simp [opened, late]
    · simpa [opened, late] using not_lt.mp late
  · have late : state.window.endAt < now := passed.trans_le before
    simp [closed, late]

/-- Then it is closed. -/
theorem Mirrors.closed_iff (unchallenged : state.challenge = none) (before : clock ≤ now) :
    (syncWindowStatus now state.window).status = .closed ↔ state.window.endAt < now := by
  unfold syncWindowStatus
  rcases mirrors.undisputed unchallenged with opened | ⟨closed, passed⟩
  · by_cases late : state.window.endAt < now
    · simp [opened, late]
    · simp [opened, late]
  · simp [closed, passed.trans_le before]

/-- A challenged window is disputed at all times. -/
theorem Mirrors.sync_eq (challenged : state.challenge.isSome) :
    syncWindowStatus now state.window = state.window := by
  simp [syncWindowStatus, mirrors.disputed challenged]

/-- An up-to-date window mirrors the task at the moment it was asked about. -/
theorem Mirrors.synced (before : clock ≤ now) :
    Mirrors now storage taskId (ChallengeWindowManager.synced now state) where
  published := mirrors.published
  endAt_eq := by
    rcases syncWindowStatus_cases now state.window with same | closed
    · exact (congrArg _ same).trans mirrors.endAt_eq
    · exact (congrArg _ closed).trans mirrors.endAt_eq
  challenged_eq := mirrors.challenged_eq
  decision_eq := mirrors.decision_eq
  disputed challenged := (congrArg _ (mirrors.sync_eq challenged)).trans
    (mirrors.disputed challenged)
  undisputed unchallenged := by
    have endAt_eq : (syncWindowStatus now state.window).endAt = state.window.endAt := by
      rcases syncWindowStatus_cases now state.window with same | closed
      · rw [same]
      · rw [closed]
    by_cases early : now ≤ state.window.endAt
    · exact .inl ((mirrors.opened_iff unchallenged before).mpr early)
    · refine .inr ⟨(mirrors.closed_iff unchallenged before).mpr (not_le.mp early), ?_⟩
      exact endAt_eq.trans_lt (not_le.mp early)

/-- Whether an unchallenged window accepts a challenge. -/
theorem Mirrors.accepts_iff (before : clock ≤ now) (challenger reason evidenceCid suffix : String) :
    (∃ next, ChallengeWindowManager.raiseChallenge now (ChallengeWindowManager.synced now state)
        challenger reason evidenceCid suffix = .ok next) ↔
      state.challenge = none ∧ now ≤ state.window.endAt := by
  simp only [ChallengeWindowManager.raiseChallenge, require_bind_eq_ok, Except.ok.injEq,
    exists_and_left, exists_eq', and_true]
  cases challenge : state.challenge with
  | none =>
      have opened := mirrors.opened_iff challenge before
      simp [ChallengeWindowManager.synced, opened, challenge]
  | some record => simp [ChallengeWindowManager.synced, challenge]

omit mirrors

theorem acceptsChallenge_iff
    (there : world.manager.windows.get (naming.taskId taskId) = some state)
    (mirrors : Mirrors world.clock world.gateway.storage taskId state)
    (before : world.clock ≤ now) :
    acceptsChallenge world.manager now (naming.taskId taskId) challenger reason evidenceCid
        suffix = true ↔ state.challenge = none ∧ now ≤ state.window.endAt := by
  rw [← mirrors.accepts_iff before challenger reason evidenceCid suffix]
  simp only [acceptsChallenge, there, Option.isSome_iff_exists, toOption_eq_some]

/-- In step, a challenge is aligned exactly if it is accepted on both sides or on none. -/
theorem challenge_aligned_iff (inStep : TaskInStep naming world taskId)
    (before : world.clock ≤ moment.time) :
    Aligned world
        (.challenge moment sender taskId challenger reason evidenceCid suffix :
          Action deployment) ↔
      ¬Diverges deployment naming world
        (.challenge moment sender taskId challenger reason evidenceCid suffix) := by
  have answered : ∀ answer : Bool,
      answer = world.mines deployment moment sender (.raiseChallenge taskId reason evidenceCid) ↔
        (answer = true ↔ world.gateway.storage.taskEvidence taskId ≠ 0 ∧
          moment.time < ((world.gateway.storage.challengeEnd taskId : Int) + 1) * second ∧
          world.gateway.storage.challenged taskId = false) := by
    intro answer
    rw [Bool.eq_iff_iff, mines_challenge, moment.timestamp_le_iff]
  simp only [Aligned, Diverges, not_not, answered]
  cases there : world.manager.windows.get (naming.taskId taskId) with
  | none =>
      have unknown := (TaskInStep.none_iff there).mp inStep
      simp [acceptsChallenge, there, unknown.unpublished]
  | some state =>
      have mirrors := (TaskInStep.some_iff there).mp inStep
      rw [acceptsChallenge_iff there mirrors before, mirrors.endAt_eq, mirrors.challenged_eq]
      cases state.challenge with
      | some record => simp
      | none =>
          have longer : (world.gateway.storage.challengeEnd taskId : Int) * second <
              (world.gateway.storage.challengeEnd taskId + 1) * second :=
            Int.mul_lt_mul_of_pos_right (Int.lt_succ _) (by decide)
          have published : world.gateway.storage.taskEvidence taskId ≠ 0 ↔ True :=
            iff_true_intro mirrors.published
          simp only [published, forall_const, Option.isSome_none, true_and, and_true]
          constructor
          · rintro (early | late)
            · exact iff_of_true early (early.trans_lt longer)
            · exact iff_of_false (fun early => absurd (longer.trans_le late) early.not_gt)
                late.not_gt
          · intro alike
            by_cases early : moment.time ≤ world.gateway.storage.challengeEnd taskId * second
            · exact .inl early
            · exact .inr (not_lt.mp fun within => early (alike.mpr within))

/-- An aligned challenge keeps its task in step. -/
theorem challenge_inStep (inStep : TaskInStep naming world taskId)
    (before : world.clock ≤ moment.time) (aligned : ¬Diverges deployment naming world
      (.challenge moment sender taskId challenger reason evidenceCid suffix)) :
    TaskInStep naming (world.both deployment moment sender
      (.raiseChallenge taskId reason evidenceCid)
      (.raiseChallenge moment.time (naming.taskId taskId) challenger reason evidenceCid suffix))
      taskId := by
  have alike := Bool.eq_iff_iff.mp (not_not.mp aligned)
  have stored := storage_challenge deployment world moment sender taskId reason evidenceCid
    (.raiseChallenge moment.time (naming.taskId taskId) challenger reason evidenceCid suffix)
  have window := get_update world.manager (naming.taskId taskId) (naming.taskId taskId)
    fun state => (ChallengeWindowManager.raiseChallenge moment.time
      (ChallengeWindowManager.synced moment.time state) challenger reason evidenceCid
      suffix).toOption.getD (ChallengeWindowManager.synced moment.time state)
  rw [if_pos rfl] at window
  cases there : world.manager.windows.get (naming.taskId taskId) with
  | none =>
      have unknown := (TaskInStep.none_iff there).mp inStep
      rw [there] at window
      refine (TaskInStep.none_iff window).mpr ?_
      rw [stored, if_neg fun mined => (mines_challenge.mp mined).1 unknown.unpublished]
      exact unknown
  | some state =>
      have mirrors := (TaskInStep.some_iff there).mp inStep
      rw [acceptsChallenge_iff there mirrors before] at alike
      rw [there, Option.map_some] at window
      refine (TaskInStep.some_iff window).mpr ?_
      rw [stored]
      cases raised : ChallengeWindowManager.raiseChallenge moment.time
          (ChallengeWindowManager.synced moment.time state) challenger reason evidenceCid
          suffix with
      | error =>
          have refused : ¬(state.challenge = none ∧ moment.time ≤ state.window.endAt) := by
            rw [← mirrors.accepts_iff before challenger reason evidenceCid suffix, raised]
            simp
          rw [if_neg fun mined => refused (alike.mpr mined)]
          exact mirrors.synced before
      | ok raisedState =>
          have accepted := (mirrors.accepts_iff before _ _ _ _).mp ⟨_, raised⟩
          rw [if_pos (alike.mp accepted)]
          simp only [ChallengeWindowManager.raiseChallenge, require_bind_eq_ok] at raised
          obtain ⟨-, -, is⟩ := raised
          obtain rfl := Except.ok.inj is
          have synced := mirrors.synced before
          refine ⟨synced.published, synced.endAt_eq, ?_, ?_, fun _ => rfl, fun none => ?_⟩
          · exact update_self _ _ _
          · exact mirrors.decision_eq.trans (by rw [accepted.1]; rfl)
          · simp [Except.toOption] at none

/-! ### Decisions -/

theorem onChainDecision_eq_none : onChainDecision storage taskId = none ↔
    storage.challengeResolved taskId = false := by
  unfold onChainDecision
  cases storage.challengeResolved taskId <;> simp

theorem onChainDecision_eq_overruled : onChainDecision storage taskId = some .overruled ↔
    storage.challengeResolved taskId = true ∧ storage.challengeUpheld taskId = false := by
  unfold onChainDecision
  cases storage.challengeResolved taskId <;> cases storage.challengeUpheld taskId <;> simp

/-- In step, a decision is aligned exactly if it is the first one. -/
theorem resolve_aligned_iff (inStep : TaskInStep naming world taskId) :
    Aligned world (.resolve moment taskId decision : Action deployment) ↔
      ¬Diverges deployment naming world (.resolve moment taskId decision) := by
  simp only [Aligned, Diverges]
  constructor
  · rintro undecided (⟨decided, -⟩ | ⟨decided, -⟩)
    · exact decided undecided
    · exact decided (inStep.decision_eq.trans undecided)
  · intro single
    by_contra decided
    refine single (.inr ⟨fun none => decided (inStep.decision_eq.symm.trans none), ?_⟩)
    cases there : world.manager.windows.get (naming.taskId taskId) with
    | none => exact absurd ((TaskInStep.none_iff there).mp inStep).undecided decided
    | some state =>
        have mirrors := (TaskInStep.some_iff there).mp inStep
        rw [mirrors.decision_eq] at decided
        cases challenge : state.challenge with
        | none => simp [challenge] at decided
        | some record =>
            simp [acceptsDecision, there, ChallengeWindowManager.resolveChallenge, challenge,
              Except.toOption]

/-- A decision is written down; the window stays disputed. -/
theorem Mirrors.resolveChallenge_eq {record : ChallengeRecord}
    (mirrors : Mirrors clock storage taskId state) (challenge : state.challenge = some record) :
    ChallengeWindowManager.resolveChallenge now state decision =
      .ok { state with
        challenge := some { record with status := .resolved, decision := some decision } } := by
  have challenged : state.challenge.isSome := by simp [challenge]
  simp only [ChallengeWindowManager.resolveChallenge, challenge]
  cases decision with
  | upheld => rw [← mirrors.disputed challenged]
  | overruled => rw [mirrors.sync_eq challenged]

/-- The first decision keeps its task in step. -/
theorem resolve_inStep (inStep : TaskInStep naming world taskId)
    (before : world.clock ≤ moment.time)
    (undecided : onChainDecision world.gateway.storage taskId = none) :
    TaskInStep naming (world.both deployment moment deployment.arbitrator
      (.resolveChallenge taskId (decision = .upheld))
      (.resolveChallenge moment.time (naming.taskId taskId) decision)) taskId := by
  have stored := storage_resolve deployment world moment deployment.arbitrator taskId
    (decision = .upheld) (.resolveChallenge moment.time (naming.taskId taskId) decision)
  have window := get_update world.manager (naming.taskId taskId) (naming.taskId taskId)
    fun state => (ChallengeWindowManager.resolveChallenge moment.time state
      decision).toOption.getD state
  rw [if_pos rfl] at window
  have unresolved := onChainDecision_eq_none.mp undecided
  cases there : world.manager.windows.get (naming.taskId taskId) with
  | none =>
      have unknown := (TaskInStep.none_iff there).mp inStep
      rw [there] at window
      refine (TaskInStep.none_iff window).mpr ?_
      rw [stored, if_neg fun mined => by simpa [unknown.unchallenged] using (mines_resolve.mp mined).1]
      exact unknown
  | some state =>
      have mirrors := (TaskInStep.some_iff there).mp inStep
      rw [there, Option.map_some] at window
      refine (TaskInStep.some_iff window).mpr ?_
      rw [stored]
      have mined : world.mines deployment moment deployment.arbitrator
          (.resolveChallenge taskId (decision = .upheld)) = true ↔ state.challenge.isSome := by
        rw [mines_resolve, mirrors.challenged_eq, unresolved]
        simp
      cases challenge : state.challenge with
      | none =>
          rw [if_neg (by simp [mined, challenge])]
          simp only [ChallengeWindowManager.resolveChallenge, challenge]
          exact mirrors.congr (.refl _ _) before
      | some record =>
          have disputed : state.challenge.isSome := by simp [challenge]
          rw [if_pos (mined.mpr disputed)]
          rw [mirrors.resolveChallenge_eq challenge]
          refine ⟨mirrors.published, mirrors.endAt_eq, ?_, ?_, fun _ => mirrors.disputed disputed,
            fun none => ?_⟩
          · exact mirrors.challenged_eq.trans (by rw [challenge]; rfl)
          · cases decision <;> simp [onChainDecision, Except.toOption]
          · simp [Except.toOption] at none

/-! ### Questions -/

/-- An unchallenged window can be settled after its last moment, a challenged one never. -/
theorem Mirrors.canSettle_iff (mirrors : Mirrors clock storage taskId state)
    (before : clock ≤ now) :
    canSettle now state.window = true ↔ state.challenge = none ∧ state.window.endAt < now := by
  rw [canSettle, decide_eq_true_iff]
  cases challenge : state.challenge with
  | none => simpa using mirrors.closed_iff challenge before
  | some record =>
      have challenged : state.challenge.isSome := by simp [challenge]
      simp [mirrors.sync_eq challenged, mirrors.disputed challenged]

/-- In step, a question is aligned exactly if the gateway answers it alike. -/
theorem ask_aligned_iff (inStep : TaskInStep naming world taskId)
    (before : world.clock ≤ moment.time) :
    Aligned world (.ask moment taskId : Action deployment) ↔
      ¬Diverges deployment naming world (.ask moment taskId) := by
  simp only [Aligned, Diverges]
  cases there : world.manager.windows.get (naming.taskId taskId) with
  | none =>
      have unknown := (TaskInStep.none_iff there).mp inStep
      simp [unknown.unpublished]
  | some state =>
      have mirrors := (TaskInStep.some_iff there).mp inStep
      have passes : challengeGate world.gateway.storage moment.timestamp taskId = true ↔
          state.window.endAt ≤ moment.time ∧ (world.gateway.storage.challenged taskId = false ∨
            onChainDecision world.gateway.storage taskId = some .overruled) := by
        rw [mirrors.endAt_eq, ← moment.le_timestamp_iff, challengeGate, decide_eq_true_iff,
          Option.isSome_iff_exists]
        simp only [toOption_eq_some, Gateway.requireUnchallenged_eq_ok, onChainDecision_eq_overruled,
          exists_const]
      have published : world.gateway.storage.taskEvidence taskId ≠ 0 ↔ True :=
        iff_true_intro mirrors.published
      have alike : (canSettle moment.time state.window =
            challengeGate world.gateway.storage moment.timestamp taskId) ↔ _ := Bool.eq_iff_iff
      rw [mirrors.canSettle_iff before, passes] at alike
      simp only [Option.some.injEq, exists_eq_left', not_not, published, forall_const, alike]
      rw [mirrors.challenged_eq, mirrors.decision_eq, mirrors.endAt_eq]
      cases state.challenge with
      | none =>
          simp only [Option.isSome_none, Option.bind_none, reduceCtorEq, forall_const, true_and,
            false_implies, and_true, true_or]
          exact ⟨fun apart => (lt_iff_le_and_ne.trans (and_iff_left (Ne.symm apart))),
            fun alike same => absurd (alike.mpr same.ge) same.not_gt⟩
      | some record =>
          simp only [Option.isSome_some, Option.bind_some, reduceCtorEq, false_implies, true_and,
            false_and, false_or, false_iff, not_and, Bool.true_eq_false]
          exact ⟨fun early late overruled => absurd late (early overruled).not_ge,
            fun refused overruled => not_le.mp fun late => refused late overruled⟩

/-- A question keeps its task in step. -/
theorem ask_inStep (inStep : TaskInStep naming world taskId) (before : world.clock ≤ moment.time) :
    TaskInStep naming { world with
      manager := world.manager.perform (.ask moment.time (naming.taskId taskId))
      clock := moment.time } taskId := by
  have window := get_update world.manager (naming.taskId taskId) (naming.taskId taskId)
    (ChallengeWindowManager.synced moment.time)
  rw [if_pos rfl] at window
  cases there : world.manager.windows.get (naming.taskId taskId) with
  | none =>
      rw [there] at window
      exact (TaskInStep.none_iff window).mpr ((TaskInStep.none_iff there).mp inStep)
  | some state =>
      rw [there] at window
      have mirrors := (TaskInStep.some_iff there).mp inStep
      exact (TaskInStep.some_iff window).mpr (mirrors.synced before)

end Each

/-! ## Runs -/

section Runs

variable {deployment : Gateway.Deployment} {naming : Naming} {world next start : World}
  {action : Action deployment} {actions : List (Action deployment)} {taskId other : Bytes32}
  {defaultDurationSeconds : Int}

/-- A call on both sides leaves the other tasks in step. -/
theorem both_others {moment : Moment} {sender : Address} {call : Gateway.Call}
    {windowAction : WindowAction} (inStep : TaskInStep naming world other)
    (before : world.clock ≤ moment.time) (different : some other ≠ subject call)
    (sameWindow : (world.manager.perform windowAction).windows.get (naming.taskId other) =
      world.manager.windows.get (naming.taskId other)) :
    TaskInStep naming (world.both deployment moment sender call windowAction) other :=
  inStep.congr sameWindow (both_sameTask different) before

/-- What an action on a task has to keep in step is that task. -/
theorem inStep_of_subject (taskId : Bytes32) (inStep : InStep naming world)
    (others : ∀ other, other ≠ taskId → TaskInStep naming world other → TaskInStep naming next other) :
    InStep naming next ↔ TaskInStep naming next taskId := by
  refine ⟨fun all => all taskId, fun subject other => ?_⟩
  by_cases same : other = taskId
  · exact same ▸ subject
  · exact others other same (inStep other)

/-- In step before and after, no decision is changed. -/
theorem not_redecides (inStep : InStep naming world) (after : InStep naming next)
    (step : perform deployment naming world action = some next) : ¬Redecides naming world next := by
  rintro ⟨taskId, decision, ⟨decided, changed⟩ | ⟨decided, changed⟩⟩
  · exact changed (step_decision step decided)
  · rw [(inStep taskId).decision_eq] at decided
    rw [(after taskId).decision_eq] at changed
    exact changed (step_decision step decided)

/-- A step from two sides in step is aligned exactly if it leaves them in step and both answer
it alike. -/
theorem aligned_iff (inStep : InStep naming world)
    (step : perform deployment naming world action = some next) :
    Aligned world action ↔
      InStep naming next ∧ ¬(Diverges deployment naming world action ∨ Redecides naming world next) := by
  suffices exact : Aligned world action ↔
      InStep naming next ∧ ¬Diverges deployment naming world action by
    rw [exact, not_or]
    constructor
    · rintro ⟨after, alike⟩
      exact ⟨after, alike, not_redecides inStep after step⟩
    · rintro ⟨after, alike, -⟩
      exact ⟨after, alike⟩
  cases action with
  | publish moment sender taskId evidenceHash cid evidenceText taskType durationSeconds =>
      simp only [perform, Option.ite_none_right_eq_some, Option.some.injEq] at step
      obtain ⟨⟨before, -⟩, rfl⟩ := step
      rw [inStep_of_subject taskId inStep, publish_inStep (inStep taskId) before]
      · simp [Diverges]
      · intro other different kept
        refine both_others kept before (fun same => different (Option.some.inj same)) ?_
        rw [get_openWindow, if_neg fun same => different (naming.injective same.1)]
  | challenge moment sender taskId challenger reason evidenceCid suffix =>
      simp only [perform, Option.ite_none_right_eq_some, Option.some.injEq] at step
      obtain ⟨before, rfl⟩ := step
      rw [inStep_of_subject taskId inStep, challenge_aligned_iff (inStep taskId) before]
      · exact ⟨fun alike => ⟨challenge_inStep (inStep taskId) before alike, alike⟩, And.right⟩
      · intro other different kept
        refine both_others kept before (fun same => different (Option.some.inj same)) ?_
        exact (get_update _ _ _ _).trans (if_neg fun same => different (naming.injective same))
  | resolve moment taskId decision =>
      simp only [perform, Option.ite_none_right_eq_some, Option.some.injEq] at step
      obtain ⟨before, rfl⟩ := step
      rw [inStep_of_subject taskId inStep]
      · rw [← resolve_aligned_iff (inStep taskId)]
        exact ⟨fun single => ⟨resolve_inStep (inStep taskId) before single, single⟩, And.right⟩
      · intro other different kept
        refine both_others kept before (fun same => different (Option.some.inj same)) ?_
        exact (get_update _ _ _ _).trans (if_neg fun same => different (naming.injective same))
  | ask moment taskId =>
      simp only [perform, Option.ite_none_right_eq_some, Option.some.injEq] at step
      obtain ⟨before, rfl⟩ := step
      rw [inStep_of_subject taskId inStep, ← ask_aligned_iff (inStep taskId) before]
      · exact (and_iff_right (ask_inStep (inStep taskId) before)).symm
      · intro other different kept
        refine kept.congr ?_ (.refl _ _) before
        exact (get_update _ _ _ _).trans (if_neg fun same => different (naming.injective same))
  | aside gatewayAction =>
      simp only [perform, Option.ite_none_right_eq_some, Option.map_eq_some_iff] at step
      obtain ⟨aside, gateway, performed, rfl⟩ := step
      refine iff_of_true trivial ⟨fun other => ?_, id⟩
      exact (inStep other).congr rfl (aside_sameTask aside performed) (le_max_left _ _)

/-- Nothing has happened on either side. -/
theorem init_inStep (initial : (system deployment naming defaultDurationSeconds).Init start) :
    InStep naming start := by
  obtain ⟨⟨-, -, -, duration, fresh⟩, managed, -⟩ := initial
  intro taskId
  refine (TaskInStep.none_iff ?_).mpr ?_
  · rw [managed]
    rfl
  · rw [fresh]
    exact ⟨rfl, rfl, rfl⟩

/-- A run takes only aligned steps exactly if the two sides stay in step, answer every question
and challenge alike, and no challenge is decided again or its decision changed. -/
theorem mirror_iff (initial : (system deployment naming defaultDurationSeconds).Init start)
    (run : (system deployment naming defaultDurationSeconds).Run start actions world) :
    ((system deployment naming defaultDurationSeconds).restrict Aligned).Run start actions world ↔
      ¬(system deployment naming defaultDurationSeconds).Visits start actions world
          (fun state => ¬InStep naming state) ∧
        ¬(system deployment naming defaultDurationSeconds).Takes start actions world
          (fun state action next => Diverges deployment naming state action ∨
            Redecides naming state next) := by
  refine run.restrict_iff_kept ?_ ?_ (.init initial) (init_inStep initial)
  · intro state action next other step again
    exact Option.some.inj (step.symm.trans again)
  · intro state action next _ inStep step
    exact aligned_iff inStep step

end Runs

namespace Demo

open Gateway.Demo (deployment)
open Bilateral.Demo (buyer agent)

/-- As many strokes as the number of the task. -/
def naming : Naming where
  taskId id := String.ofList (List.replicate id.toNat 'x')
  injective id other same := by
    have lengths := congrArg List.length (String.ofList_injective same)
    exact BitVec.eq_of_toNat_eq (by simpa using lengths)

/-- The moment a second after the given one. -/
def after (seconds : Nat) : Moment :=
  ⟨(seconds + 1) * second, by
    rw [add_mul, one_mul]
    exact le_add_of_nonneg_left (Int.mul_nonneg (Int.natCast_nonneg _) (by decide))⟩

def start : World := ⟨{ defaultDurationSeconds := 3600 }, Gateway.Demo.start 3600, 0⟩

theorem start_init : (system deployment naming 3600).Init start :=
  ⟨Gateway.Demo.start_init 3600, rfl, rfl⟩

abbrev Scene := Library.Scene (perform deployment naming) start

theorem Scene.run (scene : Scene) :
    (system deployment naming 3600).Run start scene.actions scene.world :=
  Library.Scene.run (fun _ _ _ performed => performed) scene

theorem Scene.step (scene : Scene) (action : Action deployment)
    (possible : (TransitionSystem.follow (perform deployment naming) start
      (scene.actions ++ [action])).isSome) :
    (system deployment naming 3600).Step scene.world action (scene.next action possible).world :=
  scene.performed action possible

/-- Nothing has happened yet. -/
def opening : Scene := ⟨[], rfl⟩

/-- Evidence is published on both sides, and challenged. -/
def published : Scene :=
  opening.next (.publish (after 1000) agent 2 99 "" "" "api" none) (by decide +kernel)

def challenged : Scene :=
  published.next (.challenge (after 2000) buyer 2 "" "" "" "") (by decide +kernel)

/-- So it is, and the arbitrator upholds the challenge. -/
def upheld : Scene :=
  challenged.next (.resolve (after 3000) 2 .upheld) (by decide +kernel)

/-- The arbitrator overrules the challenge. -/
def overruled : Scene :=
  challenged.next (.resolve (after 3000) 2 .overruled) (by decide +kernel)

/-- The window of the task. -/
def window (scene : Scene) : Option ChallengeWindow :=
  (scene.world.manager.windows.get (naming.taskId 2)).map (·.window)

end Demo

/-- After an overruled challenge the gateway lets the task pass and the manager never does; and
it takes a second decision, where the gateway reverts. -/
theorem overruled_never_settles :
    (system Gateway.Demo.deployment Demo.naming 3600).Init Demo.start ∧
    (system Gateway.Demo.deployment Demo.naming 3600).Run Demo.start Demo.overruled.actions
      Demo.overruled.world ∧
    (Demo.window Demo.overruled).map (canSettle (Demo.after 5000).time) = some false ∧
    challengeGate Demo.overruled.world.gateway.storage (Demo.after 5000).timestamp 2 = true ∧
    offChainDecision Demo.overruled.world.manager (Demo.naming.taskId 2) = some .overruled ∧
    acceptsDecision Demo.overruled.world.manager (Demo.after 5000).time (Demo.naming.taskId 2)
      .upheld = true ∧
    Demo.overruled.world.mines Gateway.Demo.deployment (Demo.after 5000)
      Gateway.Demo.deployment.arbitrator (.resolveChallenge 2 true) = false :=
  ⟨Demo.start_init, Demo.overruled.run, by decide +kernel, by decide +kernel, by decide +kernel,
    by decide +kernel, by decide +kernel⟩

theorem mirror_iff_upheld :
    ¬(system Gateway.Demo.deployment Demo.naming 3600).Takes Demo.start Demo.upheld.actions
      Demo.upheld.world (fun state action next =>
        Diverges Gateway.Demo.deployment Demo.naming state action ∨
          Redecides Demo.naming state next) := by
  have aligned : ((system Gateway.Demo.deployment Demo.naming 3600).restrict Aligned).Run Demo.start
      Demo.upheld.actions Demo.upheld.world := by
    refine .snoc (.snoc (.snoc .nil ⟨Demo.opening.step _ _, ?_⟩) ⟨Demo.published.step _ _, ?_⟩)
      ⟨Demo.challenged.step _ _, ?_⟩
    · intro _
      decide +kernel
    · intro _ _
      decide +kernel
    · change onChainDecision Demo.challenged.world.gateway.storage 2 = none
      decide +kernel
  exact ((mirror_iff Demo.start_init Demo.upheld.run).mp aligned).2

end TrustChain.Verifier.Mirror
