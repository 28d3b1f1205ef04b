import TrustChain.Billing.StateMachine

/-!
# Billing runs

What a call of the state machine does, and what holds along a run of calls. A transition is
checked against the scenario that its caller names, not against the one recorded for the
task, so a run follows the recorded scenarios exactly as long as nobody asks for a
transition that only another scenario allows. And the first call for a task records its
state and scenario before anything is checked, so they stay when that call is refused.
-/

namespace TrustChain.Billing

open Library Function

section Calls

variable {machine : Machine} {request : Request} {fromState : BillingState}

/-- A transition passes the three checks if its scenario allows it, which includes the global
map, and its receipt is registered. -/
theorem objection_eq_none :
    machine.objection request fromState = none ↔
      isTransitionAllowed request.scenario fromState request.toState = true ∧
        request.triggeredByReceiptId ∈ machine.receipts request.taskId := by
  have within : isTransitionAllowed request.scenario fromState request.toState = true →
      request.toState ∈ legalTargets fromState := by
    intro allowed
    rw [isTransitionAllowed, Bool.and_eq_true, decide_eq_true_eq] at allowed
    exact allowed.1
  rw [Machine.objection]
  split
  · next illegal =>
      constructor
      · intro none
        exact absurd none (Option.some_ne_none _)
      · intro passes
        exact absurd (within passes.1) illegal
  · split
    · next refused => simp [refused]
    · split
      · next unknown =>
          simp only [Machine.isReceiptValid, decide_eq_false_iff_not] at unknown
          constructor
          · intro none
            exact absurd none (Option.some_ne_none _)
          · intro passes
            exact absurd passes.2 unknown
      · next legal allowed known =>
          simp only [Machine.isReceiptValid, decide_eq_false_iff_not, not_not] at known
          exact ⟨fun _ => ⟨Bool.eq_true_of_not_eq_false allowed, known⟩, fun _ => rfl⟩

theorem objection_critical {event : SecurityEvent}
    (objects : machine.objection request fromState = some event) : event.severity = .critical := by
  rw [Machine.objection] at objects
  split at objects
  · cases objects
    rfl
  · split at objects
    · cases objects
      rfl
    · split at objects <;> cases objects
      rfl

/-- The state a transition of the task would start from. -/
def Machine.stateOf (machine : Machine) (taskId : TaskId) : BillingState :=
  (machine.taskStates taskId).getD .initiated

/-- The scenario a transition of the task would find recorded. -/
def Machine.scenarioOf (machine : Machine) (request : Request) : Option ScenarioType :=
  if (machine.taskStates request.taskId).isSome then machine.taskScenarios request.taskId
  else some request.scenario

theorem firstUse_fst : (machine.firstUse request).1 = machine.stateOf request.taskId := by
  rw [Machine.firstUse, Machine.stateOf]
  cases machine.taskStates request.taskId <;> rfl

theorem firstUse_auditLog : (machine.firstUse request).2.auditLog = machine.auditLog := by
  rw [Machine.firstUse]
  cases machine.taskStates request.taskId <;> rfl

theorem firstUse_receipts (taskId : TaskId) :
    (machine.firstUse request).2.receipts taskId = machine.receipts taskId := by
  rw [Machine.firstUse]
  cases machine.taskStates request.taskId with
  | some state => rfl
  | none =>
      by_cases same : taskId = request.taskId
      · simp [Machine.receipts, same]
      · simp [Machine.receipts, same]

theorem firstUse_taskStates :
    (machine.firstUse request).2.taskStates =
      update machine.taskStates request.taskId (some (machine.stateOf request.taskId)) := by
  rw [Machine.firstUse, Machine.stateOf]
  cases found : machine.taskStates request.taskId with
  | some state =>
      change machine.taskStates = update machine.taskStates request.taskId (some state)
      rw [← found, update_eq_self]
  | none => rfl

theorem firstUse_taskScenarios :
    (machine.firstUse request).2.taskScenarios =
      update machine.taskScenarios request.taskId (machine.scenarioOf request) := by
  rw [Machine.firstUse, Machine.scenarioOf]
  cases found : machine.taskStates request.taskId with
  | some state => simp
  | none => simp

/-- What a transition that is carried out adds to the machine, and what had to hold for it. -/
structure Carried (machine : Machine) (request : Request) (record : StateTransitionRecord)
    (next : Machine) : Prop where
  allowed : isTransitionAllowed request.scenario (machine.stateOf request.taskId) request.toState =
    true
  registered : request.triggeredByReceiptId ∈ machine.receipts request.taskId
  task_eq : record.taskId = request.taskId
  from_eq : record.fromState = machine.stateOf request.taskId
  to_eq : record.toState = request.toState
  receipt_eq : record.triggeredByReceiptId = request.triggeredByReceiptId
  transitions : next.auditLog.transitions = machine.auditLog.transitions ++ [record]
  states : next.taskStates = update machine.taskStates request.taskId (some request.toState)
  scenarios : next.taskScenarios =
    update machine.taskScenarios request.taskId (machine.scenarioOf request)
  receipts : ∀ taskId, next.receipts taskId = machine.receipts taskId

/-- What a transition that is refused leaves behind: the first use of its task, if it was that,
and one critical event. -/
structure Refused (machine : Machine) (request : Request) (next : Machine) : Prop where
  refused : ¬(isTransitionAllowed request.scenario (machine.stateOf request.taskId)
      request.toState = true ∧
    request.triggeredByReceiptId ∈ machine.receipts request.taskId)
  transitions : next.auditLog.transitions = machine.auditLog.transitions
  states : next.taskStates =
    update machine.taskStates request.taskId (some (machine.stateOf request.taskId))
  scenarios : next.taskScenarios =
    update machine.taskScenarios request.taskId (machine.scenarioOf request)
  receipts : ∀ taskId, next.receipts taskId = machine.receipts taskId
  event : ∃ event : SecurityEvent, event.severity = .critical ∧
    next.auditLog.securityEvents = machine.auditLog.securityEvents ++ [event]

/-- A call of `execute_transition` carries the transition out or raises. -/
theorem executeTransition_cases {recordId : String} {timestamp : Int}
    {outcome : Except IllegalStateTransitionError StateTransitionRecord} {next : Machine}
    (ran : machine.executeTransition recordId timestamp request = (outcome, next)) :
    (∃ record, outcome = .ok record ∧ Carried machine request record next) ∨
      (∃ error, outcome = .error error) ∧ Refused machine request next := by
  simp only [Machine.executeTransition, Machine.validateTransition] at ran
  cases objects : (machine.firstUse request).2.objection request (machine.firstUse request).1 with
  | some event =>
      right
      simp only [objects, Prod.mk.injEq] at ran
      obtain ⟨rfl, rfl⟩ := ran
      refine ⟨⟨_, rfl⟩, ?_, ?_, ?_, ?_, ?_, ?_⟩
      · intro passes
        have known : request.triggeredByReceiptId ∈
            (machine.firstUse request).2.receipts request.taskId := by
          rw [firstUse_receipts]
          exact passes.2
        rw [← firstUse_fst] at passes
        cases (objection_eq_none.mpr ⟨passes.1, known⟩).symm.trans objects
      · exact congrArg (·.transitions) firstUse_auditLog
      · exact firstUse_taskStates
      · exact firstUse_taskScenarios
      · exact firstUse_receipts
      · exact ⟨event, objection_critical objects,
          congrArg (fun log : InMemoryAuditLog => log.securityEvents ++ [event])
            firstUse_auditLog⟩
  | none =>
      left
      obtain ⟨allowed, registered⟩ := objection_eq_none.mp objects
      rw [firstUse_fst] at allowed
      rw [firstUse_receipts] at registered
      have states : update (machine.firstUse request).2.taskStates request.taskId
          (some request.toState) = update machine.taskStates request.taskId (some request.toState) := by
        rw [firstUse_taskStates, update_idem]
      simp only [objects] at ran
      split at ran
      all_goals
        obtain ⟨rfl, rfl⟩ := Prod.mk.inj ran
        refine ⟨_, rfl, allowed, registered, rfl, firstUse_fst, rfl, rfl, ?_, ?_, ?_, ?_⟩
        · exact congrArg (fun log => log.transitions ++ [_]) firstUse_auditLog
        · exact states
        · exact firstUse_taskScenarios
        · exact firstUse_receipts

/-- The state, the scenario and the history of every task are what they were, and exactly one
critical event has been added. -/
def Machine.Unchanged (machine next : Machine) : Prop :=
  (∀ taskId, next.getCurrentState taskId = machine.getCurrentState taskId ∧
    next.getScenario taskId = machine.getScenario taskId ∧
    next.history taskId = machine.history taskId) ∧
  ∃ event : SecurityEvent, event.severity = .critical ∧
    next.auditLog.securityEvents = machine.auditLog.securityEvents ++ [event]

/-- A call that raises changes nothing but the log exactly if its task had a state already. -/
theorem rejected_unchanged_iff {recordId : String} {timestamp : Int}
    {error : IllegalStateTransitionError} {next : Machine}
    (raised : machine.executeTransition recordId timestamp request = (.error error, next)) :
    machine.Unchanged next ↔ (machine.getCurrentState request.taskId).isSome = true := by
  rcases executeTransition_cases raised with ⟨_, carried, -⟩ | ⟨-, refused⟩
  · cases carried
  constructor
  · intro unchanged
    have same := (unchanged.1 request.taskId).1
    rw [Machine.getCurrentState, refused.states, update_self] at same
    rw [← same]
    rfl
  · intro known
    obtain ⟨state, found⟩ := Option.isSome_iff_exists.mp known
    rw [Machine.getCurrentState] at found
    refine ⟨fun taskId => ⟨?_, ?_, ?_⟩, refused.event⟩
    · rw [Machine.getCurrentState, refused.states, Machine.stateOf, found, Option.getD_some,
        ← found, update_eq_self]
      rfl
    · have kept : machine.scenarioOf request = machine.taskScenarios request.taskId := by
        rw [Machine.scenarioOf, found]
        rfl
      rw [Machine.getScenario, refused.scenarios, kept, update_eq_self]
      rfl
    · rw [Machine.history, refused.transitions]
      rfl

end Calls

/-! ## Runs -/

/-- A receipt is registered, a transition is checked, or one is executed. -/
inductive BillingAction where
  | registerReceipt (taskId : TaskId) (receiptId : String)
  | validate (request : Request) (fromState : BillingState)
  | execute (recordId : String) (timestamp : Int) (request : Request)

/-- A call that raises leaves its traces too, so every call is a step. -/
def Machine.perform (machine : Machine) : BillingAction → Machine
  | .registerReceipt taskId receiptId => machine.registerReceipt taskId receiptId
  | .validate request fromState => (machine.validateTransition request fromState).2
  | .execute recordId timestamp request =>
      (machine.executeTransition recordId timestamp request).2

def billing : TransitionSystem Machine BillingAction where
  Init machine := machine = {}
  Step machine action next := machine.perform action = next

/-- The records lead from one state to the other without a gap. -/
def Walk (start : BillingState) : List StateTransitionRecord → BillingState → Prop
  | [], finish => start = finish
  | record :: records, finish => record.fromState = start ∧ Walk record.toState records finish

theorem walk_snoc {start finish : BillingState} {records : List StateTransitionRecord}
    {record : StateTransitionRecord} (walk : Walk start records finish)
    (continued : record.fromState = finish) :
    Walk start (records ++ [record]) record.toState := by
  induction records generalizing start with
  | nil => exact ⟨continued.trans walk.symm, rfl⟩
  | cons first rest ih => exact ⟨walk.1, ih walk.2⟩

/-- The recorded transitions of a task lead from `INITIATED` to its state, none leaves `SETTLED`,
and each was triggered by a receipt of the task. -/
structure Machine.Contiguous (machine : Machine) (taskId : TaskId) : Prop where
  walk : Walk .initiated (machine.history taskId) (machine.stateOf taskId)
  unknown : machine.getCurrentState taskId = none → machine.history taskId = []
  receipts : ∀ record ∈ machine.history taskId,
    record.triggeredByReceiptId ∈ machine.receipts taskId
  unsettled : ∀ record ∈ machine.history taskId, record.fromState ≠ .settled

/-- The recorded transitions of a task are all allowed by the one scenario recorded for it. -/
def Machine.OnScenario (machine : Machine) (taskId : TaskId) : Prop :=
  ∀ record ∈ machine.history taskId, ∃ scenario, machine.getScenario taskId = some scenario ∧
    isTransitionAllowed scenario record.fromState record.toState = true

/-- Every task is a contiguous walk on one scenario. -/
def Machine.Follows (machine : Machine) : Prop :=
  ∀ taskId, machine.Contiguous taskId ∧ machine.OnScenario taskId

/-- A call that would be carried out for a known task asks for a transition that the scenario
of the task allows, and not only the scenario that the caller names. -/
def Machine.Faithful (machine : Machine) : BillingAction → Prop
  | .execute _ _ request =>
      ∀ scenario, machine.getScenario request.taskId = some scenario →
        (machine.getCurrentState request.taskId).isSome →
        request.triggeredByReceiptId ∈ machine.receipts request.taskId →
        isTransitionAllowed request.scenario (machine.stateOf request.taskId) request.toState =
          true →
        isTransitionAllowed scenario (machine.stateOf request.taskId) request.toState = true
  | _ => True

/-- What a call does to the machine: a transition is carried out or refused, or the call leaves
the tasks alone and takes no receipt away. -/
inductive Effect (machine : Machine) : BillingAction → Machine → Prop
  | carried {recordId timestamp request next} (record : StateTransitionRecord) :
      Carried machine request record next →
      Effect machine (.execute recordId timestamp request) next
  | refused {recordId timestamp request next} : Refused machine request next →
      Effect machine (.execute recordId timestamp request) next
  | quiet {action next} : machine.Faithful action →
      next.auditLog.transitions = machine.auditLog.transitions →
      next.taskStates = machine.taskStates → next.taskScenarios = machine.taskScenarios →
      (∀ taskId, machine.receipts taskId ⊆ next.receipts taskId) → Effect machine action next

section Effects

variable {machine next : Machine} {action : BillingAction} {request : Request}
  {record : StateTransitionRecord}

theorem perform_effect : Effect machine action (machine.perform action) := by
  cases action with
  | registerReceipt taskId receiptId =>
      refine .quiet trivial rfl rfl rfl fun other => ?_
      by_cases same : other = taskId
      · simp [Machine.perform, Machine.registerReceipt, Machine.receipts, same]
      · simp [Machine.perform, Machine.registerReceipt, Machine.receipts, same]
  | validate request fromState =>
      rw [Machine.perform, Machine.validateTransition]
      split
      · exact .quiet trivial rfl rfl rfl fun _ => subset_rfl
      · exact .quiet trivial rfl rfl rfl fun _ => subset_rfl
  | execute recordId timestamp request =>
      rcases executeTransition_cases (Prod.mk.eta (p :=
        machine.executeTransition recordId timestamp request)).symm with
        ⟨record, -, carried⟩ | ⟨-, refused⟩
      · exact .carried record carried
      · exact .refused refused

theorem Carried.history (carried : Carried machine request record next) (taskId : TaskId) :
    next.history taskId =
      machine.history taskId ++ if taskId = request.taskId then [record] else [] := by
  rw [Machine.history, carried.transitions, List.filter_append, Machine.history]
  by_cases same : taskId = request.taskId
  · simp [same, carried.task_eq]
  · simp [Ne.symm same, same, carried.task_eq]

theorem Carried.stateOf (carried : Carried machine request record next) (taskId : TaskId) :
    next.stateOf taskId = if taskId = request.taskId then request.toState
      else machine.stateOf taskId := by
  rw [Machine.stateOf, carried.states]
  by_cases same : taskId = request.taskId
  · simp [same]
  · simp [same, Machine.stateOf]

theorem Refused.stateOf (refused : Refused machine request next) (taskId : TaskId) :
    next.stateOf taskId = machine.stateOf taskId := by
  rw [Machine.stateOf, refused.states]
  by_cases same : taskId = request.taskId
  · simp [same]
  · simp [same, Machine.stateOf]

/-- The walks of all tasks stay contiguous, whatever the call. -/
theorem Effect.contiguous (effect : Effect machine action next) {taskId : TaskId}
    (before : machine.Contiguous taskId) : next.Contiguous taskId := by
  cases effect with
  | @carried _ _ request _ record carried =>
      have history := carried.history taskId
      have stateOf := carried.stateOf taskId
      by_cases same : taskId = request.taskId
      · rw [if_pos same] at history stateOf
        have source : record.fromState = machine.stateOf taskId := by rw [same, carried.from_eq]
        constructor
        · rw [history, stateOf, ← carried.to_eq]
          exact walk_snoc before.walk source
        · intro absent
          rw [Machine.getCurrentState, carried.states, same, update_self] at absent
          cases absent
        · intro taken recorded
          rw [carried.receipts]
          rw [history, List.mem_append, List.mem_singleton] at recorded
          rcases recorded with earlier | rfl
          · exact before.receipts taken earlier
          · rw [carried.receipt_eq, same]
            exact carried.registered
        · intro taken recorded
          rw [history, List.mem_append, List.mem_singleton] at recorded
          rcases recorded with earlier | rfl
          · exact before.unsettled taken earlier
          · intro settled
            have allowed := carried.allowed
            rw [← carried.from_eq, settled, not_allowed_settled] at allowed
            cases allowed
      · rw [if_neg same, List.append_nil] at history
        rw [if_neg same] at stateOf
        constructor
        · rw [history, stateOf]
          exact before.walk
        · rw [Machine.getCurrentState, carried.states, update_of_ne same, history]
          exact before.unknown
        · rw [history, carried.receipts]
          exact before.receipts
        · rw [history]
          exact before.unsettled
  | @refused _ _ request _ refused =>
      have history : next.history taskId = machine.history taskId := by
        rw [Machine.history, refused.transitions, Machine.history]
      constructor
      · rw [history, refused.stateOf]
        exact before.walk
      · intro absent
        rw [history]
        apply before.unknown
        rw [Machine.getCurrentState, refused.states] at absent
        rw [Machine.getCurrentState]
        by_cases same : taskId = request.taskId
        · rw [same, update_self] at absent
          cases absent
        · rwa [update_of_ne same] at absent
      · rw [history, refused.receipts]
        exact before.receipts
      · rw [history]
        exact before.unsettled
  | quiet faithful transitions states scenarios receipts =>
      have history : next.history taskId = machine.history taskId := by
        rw [Machine.history, transitions, Machine.history]
      constructor
      · rw [history, Machine.stateOf, states]
        exact before.walk
      · rw [Machine.getCurrentState, states, history]
        exact before.unknown
      · rw [history]
        exact fun record recorded => receipts taskId (before.receipts record recorded)
      · rw [history]
        exact before.unsettled

/-- A task has a scenario as soon as it has a state. -/
def Machine.Named (machine : Machine) : Prop :=
  ∀ taskId, (machine.getCurrentState taskId).isSome → (machine.getScenario taskId).isSome

theorem scenarioOf_isSome (named : machine.Named) : (machine.scenarioOf request).isSome := by
  rw [Machine.scenarioOf]
  split
  · next known => exact named request.taskId known
  · rfl

theorem Effect.named (effect : Effect machine action next) (named : machine.Named) :
    next.Named := by
  intro taskId known
  cases effect with
  | @carried _ _ request _ record carried =>
      rw [Machine.getScenario, carried.scenarios]
      rw [Machine.getCurrentState, carried.states] at known
      by_cases same : taskId = request.taskId
      · rw [same, update_self]
        exact scenarioOf_isSome named
      · rw [update_of_ne same] at known ⊢
        exact named taskId known
  | @refused _ _ request _ refused =>
      rw [Machine.getScenario, refused.scenarios]
      rw [Machine.getCurrentState, refused.states] at known
      by_cases same : taskId = request.taskId
      · rw [same, update_self]
        exact scenarioOf_isSome named
      · rw [update_of_ne same] at known ⊢
        exact named taskId known
  | quiet faithful transitions states scenarios receipts =>
      rw [Machine.getCurrentState, states] at known
      rw [Machine.getScenario, scenarios]
      exact named taskId known

/-- The first use of a task records its scenario; later uses leave it. -/
theorem onScenario_update {scenarios : TaskId → Option ScenarioType}
    (before : machine.OnScenario taskId) (contiguous : machine.Contiguous taskId)
    (recorded : scenarios = update machine.taskScenarios request.taskId (machine.scenarioOf request))
    (taken : record ∈ machine.history taskId) :
    ∃ scenario, scenarios taskId = some scenario ∧
      isTransitionAllowed scenario record.fromState record.toState = true := by
  obtain ⟨scenario, named, allowed⟩ := before record taken
  refine ⟨scenario, ?_, allowed⟩
  rw [recorded]
  by_cases same : taskId = request.taskId
  · have known : (machine.taskStates request.taskId).isSome = true := by
      rw [← same]
      by_contra unknown
      rw [contiguous.unknown (Option.not_isSome_iff_eq_none.mp unknown)] at taken
      cases taken
    rw [same, update_self, Machine.scenarioOf, if_pos known, ← same]
    exact named
  · rw [update_of_ne same]
    exact named

/-- A faithful call leaves every task on its scenario. -/
theorem Effect.onScenario (effect : Effect machine action next) (faithful : machine.Faithful action)
    (named : machine.Named) (taskId : TaskId) (contiguous : machine.Contiguous taskId)
    (before : machine.OnScenario taskId) : next.OnScenario taskId := by
  intro taken recorded
  cases effect with
  | @carried _ _ request _ record carried =>
      rw [carried.history taskId, List.mem_append] at recorded
      rcases recorded with earlier | now
      · exact onScenario_update before contiguous carried.scenarios earlier
      · split at now
        · next same =>
            obtain rfl := List.mem_singleton.mp now
            obtain ⟨scenario, found⟩ := Option.isSome_iff_exists.mp (scenarioOf_isSome named)
            refine ⟨scenario, ?_, ?_⟩
            · rw [Machine.getScenario, carried.scenarios, same, update_self, found]
            · rw [carried.from_eq, carried.to_eq]
              rw [Machine.scenarioOf] at found
              split at found
              · next known =>
                  exact faithful scenario found known carried.registered carried.allowed
              · obtain rfl := Option.some.inj found
                exact carried.allowed
        · cases now
  | refused refused =>
      rw [Machine.history, refused.transitions] at recorded
      exact onScenario_update before contiguous refused.scenarios recorded
  | quiet _ transitions states scenarios receipts =>
      rw [Machine.history, transitions] at recorded
      rw [Machine.getScenario, scenarios]
      exact before taken recorded

/-- A call after which every task is on its scenario was faithful. -/
theorem Effect.faithful (effect : Effect machine action next)
    (after : ∀ taskId, next.OnScenario taskId) : machine.Faithful action := by
  cases effect with
  | @carried _ _ request _ record carried =>
      intro scenario named known registered allowed
      have recorded : record ∈ next.history request.taskId := by
        rw [carried.history, if_pos rfl]
        exact List.mem_append_right _ (List.mem_singleton_self record)
      obtain ⟨found, same, permitted⟩ := after request.taskId record recorded
      have kept : machine.scenarioOf request = some scenario := (if_pos known).trans named
      rw [Machine.getScenario, carried.scenarios, update_self, kept] at same
      obtain rfl := Option.some.inj same
      rwa [carried.from_eq, carried.to_eq] at permitted
  | refused refused =>
      intro scenario named known registered allowed
      exact absurd ⟨allowed, registered⟩ refused.refused
  | quiet faithful _ _ _ _ => exact faithful

end Effects

section Runs

variable {start finish machine : Machine} {actions : List BillingAction}

theorem init_follows (initial : billing.Init machine) : machine.Follows := by
  obtain rfl := initial
  intro taskId
  refine ⟨⟨rfl, fun _ => rfl, ?_, ?_⟩, ?_⟩
  · intro record recorded
    cases recorded
  · intro record recorded
    cases recorded
  · intro record recorded
    cases recorded

/-- The walks are contiguous in every run, whatever scenarios its calls name. -/
theorem reachable_contiguous (reachable : billing.Reachable machine) :
    (∀ taskId, machine.Contiguous taskId) ∧ machine.Named := by
  refine reachable.invariant (fun state initial => ?_) (fun state action next _ inv step => ?_)
  · refine ⟨fun taskId => (init_follows initial taskId).1, ?_⟩
    obtain rfl := initial
    intro taskId known
    cases known
  · obtain rfl := step
    exact ⟨fun taskId => perform_effect.contiguous (inv.1 taskId), perform_effect.named inv.2⟩

/-- Every task is a contiguous walk on its one scenario throughout a run exactly if every call
of the run is faithful. -/
theorem run_follows_iff (initial : billing.Init start) (run : billing.Run start actions finish) :
    (billing.restrict Machine.Faithful).Run start actions finish ↔
      ¬billing.Visits start actions finish fun machine => ¬machine.Follows := by
  refine TransitionSystem.Visits.restrict_iff_not (fun _ _ _ _ step again => step.symm.trans again)
    ?_ (.init initial) (not_not.mpr (init_follows initial)) run
  intro state action next reached follows step
  rw [not_not] at follows ⊢
  obtain rfl := step
  have effect : Effect state action (state.perform action) := perform_effect
  have inv := reachable_contiguous reached
  constructor
  · intro faithful taskId
    exact ⟨effect.contiguous (inv.1 taskId),
      effect.onScenario faithful inv.2 taskId (inv.1 taskId) (follows taskId).2⟩
  · intro after
    exact effect.faithful fun taskId => (after taskId).2

end Runs

namespace Demo

def request (scenario : ScenarioType) (toState : BillingState) : Request where
  taskId := "t"
  scenario := scenario
  toState := toState
  triggeredByReceiptId := "r"
  triggeredByDid := "d"

def execute (scenario : ScenarioType) (toState : BillingState) : BillingAction :=
  .execute "" 0 (request scenario toState)

/-- A receipt is registered and the task starts as a delegation. -/
def delegated : List BillingAction :=
  [.registerReceipt "t" "r", execute .s1Delegation .intentReceived,
    execute .s1Delegation .intentValidated]

/-- The next caller claims that it is a bidding. -/
def strayed : List BillingAction := delegated ++ [execute .s2Bidding .bidEvaluating]

def after (actions : List BillingAction) : Machine := actions.foldl Machine.perform {}

theorem delegated_run :
    (billing.restrict Machine.Faithful).Run {} delegated (after delegated) := by
  have start : (billing.restrict Machine.Faithful).Run {} [] {} := .nil
  refine ((start.snoc ⟨rfl, ?_⟩).snoc ⟨rfl, ?_⟩).snoc ⟨rfl, ?_⟩
  · trivial
  · intro scenario named
    cases named
  · intro scenario named known registered allowed
    cases named
    exact allowed

theorem strayed_run : billing.Run {} strayed (after strayed) :=
  delegated_run.of_restrict.snoc rfl

/-- The first call for a task is refused, since its receipt is not registered. -/
def unregistered : Except IllegalStateTransitionError StateTransitionRecord × Machine :=
  Machine.executeTransition {} "" 0 (request .s1Delegation .intentReceived)

end Demo

/-- A delegation that a caller takes for a bidding leaves the paths of the delegation. -/
theorem strayed_not_follows :
    billing.Init {} ∧ billing.Run {} Demo.strayed (Demo.after Demo.strayed) ∧
    (Demo.after Demo.strayed).getScenario "t" = some .s1Delegation ∧
    ¬(Demo.after Demo.strayed).Follows := by
  refine ⟨rfl, Demo.strayed_run, by decide +kernel, fun follows => ?_⟩
  have recorded : ∃ record ∈ (Demo.after Demo.strayed).history "t",
      isTransitionAllowed .s1Delegation record.fromState record.toState = false := by
    decide +kernel
  obtain ⟨record, taken, forbidden⟩ := recorded
  obtain ⟨scenario, named, allowed⟩ := (follows "t").2 record taken
  have delegation : (Demo.after Demo.strayed).getScenario "t" = some .s1Delegation := by
    decide +kernel
  rw [delegation] at named
  obtain rfl := Option.some.inj named
  rw [forbidden] at allowed
  cases allowed

theorem run_follows_iff_delegated :
    ¬billing.Visits {} Demo.delegated (Demo.after Demo.delegated)
      fun machine => ¬machine.Follows :=
  (run_follows_iff rfl Demo.delegated_run.of_restrict).mp Demo.delegated_run

/-- The refused call of an unknown task leaves its state and scenario behind. -/
theorem unregistered_leaves_traces :
    Demo.unregistered.1 = .error ⟨"t", .initiated, .intentReceived, .s1Delegation⟩ ∧
    Machine.getCurrentState {} "t" = none ∧
    Demo.unregistered.2.getCurrentState "t" = some .initiated ∧
    Demo.unregistered.2.getScenario "t" = some .s1Delegation ∧
    ¬Machine.Unchanged {} Demo.unregistered.2 := by
  refine ⟨by decide +kernel, rfl, by decide +kernel, by decide +kernel, fun unchanged => ?_⟩
  have same := (unchanged.1 "t").1
  have left : Demo.unregistered.2.getCurrentState "t" = some .initiated := by decide +kernel
  cases left.symm.trans same

theorem rejected_unchanged_iff_delegated :
    (Demo.after Demo.delegated).Unchanged
      (Machine.executeTransition (Demo.after Demo.delegated) "" 0
        (Demo.request .s1Delegation .settled)).2 := by
  have raised : Machine.executeTransition (Demo.after Demo.delegated) "" 0
      (Demo.request .s1Delegation .settled) =
        (.error ⟨"t", .intentValidated, .settled, .s1Delegation⟩,
          (Machine.executeTransition (Demo.after Demo.delegated) "" 0
            (Demo.request .s1Delegation .settled)).2) := by
    refine Prod.ext ?_ rfl
    decide +kernel
  exact (rejected_unchanged_iff raised).mpr (by decide +kernel)

end TrustChain.Billing
