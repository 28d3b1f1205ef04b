import TrustChain.Service.Effects

/-!
# Confirmation windows

A settlement with a confirmation window should be settled by timeout. The store has no column for
the window, and no transition leads from a delivered settlement to an automatically confirmed
one: automatic confirmation is always refused.
-/

namespace TrustChain.Service

open Library

/-- What can happen where code of the service also saves settlements by itself: a draft with
all that a settlement can hold, and a settlement as it was read. -/
inductive WindowAction where
  | act (action : Action)
  | saveDraft (draft : SettlementState)
  | saveAgain (taskId : TaskId)

def performWindow (config : Config) (world : World) : WindowAction → Option World
  | .act action => perform config world action
  | .saveDraft draft =>
      if draft.status = .draft ∧ world.db.settlements.get draft.taskId = none then
        (saveSettlement 409 world.db draft).toOption.map fun db => { world with db }
      else none
  | .saveAgain taskId => do
      let state ← (getSettlement world.db taskId).toOption
      (saveSettlement 409 world.db state).toOption.map fun db => { world with db }

def windowSystem (config : Config) : TransitionSystem World WindowAction where
  Init world := world.db = {}
  Step world action next := performWindow config world action = some next

/-- All that automatic confirmation asks for apart from the window. -/
structure GatesMet (request : Request) (db : Db) (row : SettlementState) : Prop where
  party : requireBuyerOrWorker request row.fromRow = .ok ()
  running : assertRuntimeOperationAllowed request .newSettlement = .ok ()
  anchored : auditCapacityAnchor db = .ok ()
  verified : assertDeliveryGate request = .ok ()
  scene : request.gates.autoConfirm = true

/-- Automatic confirmation is refused before the deadline, and settles in full from then on. -/
structure TimesOut (config : Config) (db : Db) (taskId : TaskId) (deadline : ℚ) : Prop where
  refused : ∀ request next, request.config = config → request.now < deadline →
    dispatch request db (.autoConfirmSettlement taskId) ≠ .ok next
  settled : ∀ request row, request.config = config → db.settlements.get taskId = some row →
    GatesMet request db row → deadline ≤ request.now → ∃ next settled,
      dispatch request db (.autoConfirmSettlement taskId) = .ok next ∧
      next.settlements.get taskId = some settled ∧ settled.status = .settled ∧
      settled.releasedAmount = some row.escrowAmount

/-- A run after which a settlement that was saved with a window is delivered. -/
structure DeliveredInWindow (config : Config) (actions : List WindowAction) (world : World)
    (taskId : TaskId) (hours : Nat) : Prop where
  run : (windowSystem config).Run {} actions world
  saved : ∃ draft, .saveDraft draft ∈ actions ∧ draft.taskId = taskId ∧
    draft.confirmWindowHours = some hours
  delivered : ∃ row, world.db.settlements.get taskId = some row ∧ row.stage = .delivered
  anchored : auditCapacityAnchor world.db = .ok ()

section Refusals

variable {request : Request} {db next : Db} {state : SettlementState} {taskId : TaskId}

/-- What is read has no window. -/
theorem getSettlement_windowless (ran : getSettlement db taskId = .ok state) :
    state.confirmWindowHours = none ∧ state.confirmDeadlineAt = none := by
  rw [getSettlement_eq_ok] at ran
  obtain ⟨row, -, rfl⟩ := ran
  exact ⟨rfl, rfl⟩

/-- With a window as well, the first of the two transitions would be refused. -/
theorem confirm_transition_refused (delivered : state.status = .delivered) :
    applyTransition request db state .autoConfirmed ≠ .ok next := by
  intro ran
  have allowed := (transition_ok ran).1
  rw [delivered] at allowed
  exact absurd allowed (by decide)

/-- The client of a settlement meets the gates at any time. -/
theorem client_gatesMet (config : Config) (row : SettlementState) (now : ℚ)
    (anchored : auditCapacityAnchor db = .ok ()) :
    GatesMet { actor := some row.clientAgentId, now, config } db row where
  party := by
    unfold requireBuyerOrWorker
    split
    case isTrue => exact require_eq_ok.mpr (.inl rfl)
    case isFalse => rfl
  running := rfl
  anchored := anchored
  verified := rfl
  scene := rfl

/-- No deadline is one from which a delivered settlement is settled by timeout. -/
theorem not_timesOut {config : Config} {row : SettlementState} {deadline : ℚ}
    (there : db.settlements.get taskId = some row) (anchored : auditCapacityAnchor db = .ok ()) :
    ¬TimesOut config db taskId deadline := by
  intro times
  have met := client_gatesMet config row deadline anchored
  obtain ⟨next, settled, ran, -⟩ := times.settled _ row rfl there met le_rfl
  exact autoConfirmSettlement_refused ran

end Refusals

/-- A delivered settlement is never settled by timeout: the window is lost with the first save,
every request is refused, and the transition would be refused with the window as well. -/
theorem delivered_never_timesOut {config : Config} {actions : List WindowAction} {world : World}
    {taskId : TaskId} {hours : Nat}
    (promised : DeliveredInWindow config actions world taskId hours) :
    (∀ state, getSettlement world.db taskId = .ok state →
      state.confirmWindowHours = none ∧ state.confirmDeadlineAt = none) ∧
    (∀ request next, dispatch request world.db (.autoConfirmSettlement taskId) ≠ .ok next) ∧
    (∀ request state next, state.status = .delivered →
      applyTransition request world.db state .autoConfirmed ≠ .ok next) ∧
    ∀ deliveredAt, ¬TimesOut config world.db taskId (deliveredAt + hours * 3600) := by
  obtain ⟨row, there, -⟩ := promised.delivered
  exact ⟨fun _ => getSettlement_windowless, fun _ _ => autoConfirmSettlement_refused,
    fun _ _ _ => confirm_transition_refused, fun _ => not_timesOut there promised.anchored⟩

namespace Demo

/-- A settlement that is saved with a window of two days, and delivered after an hour. -/
def windowed : Scene (performWindow {}) {} where
  actions := [.act (call (.lockUsdc buyer 100)),
    .saveDraft { taskId := "t", escrowAmount := 10, clientAgentId := buyer
                 confirmWindowHours := some 48 },
    .act (call (.lockSettlement "t" seller)), .act (call (.startSettlement "t")), .saveAgain "t",
    .act (.request { now := 3600 } (.submitSettlement "t"))]
  possible := by decide +kernel

/-- The request for automatic confirmation, two days after the delivery. -/
def afterWindow : Request where
  actor := some buyer
  now := 3600 + 48 * 3600

end Demo

theorem delivered_windowed :
    DeliveredInWindow {} Demo.windowed.actions Demo.windowed.world "t" 48 where
  run := Demo.windowed.run fun _ _ _ performed => performed
  saved := ⟨_, .tail _ (.head _), rfl, rfl⟩
  delivered := by
    have there : (Demo.windowed.world.db.settlements.get "t").map (fun row => row.stage) =
      some .delivered := by decide +kernel
    exact Option.map_eq_some_iff.mp there
  anchored := by decide +kernel

theorem delivered_never_timesOut_windowed :
    ¬TimesOut {} Demo.windowed.world.db "t" (3600 + (48 : ℕ) * 3600) :=
  (delivered_never_timesOut delivered_windowed).2.2.2 3600

/-- Two days after the delivery the client is still refused. -/
theorem not_delivered_timesOut :
    DeliveredInWindow {} Demo.windowed.actions Demo.windowed.world "t" 48 ∧
      (∃ row, Demo.windowed.world.db.settlements.get "t" = some row ∧ row.updatedAt = 3600 ∧
        GatesMet Demo.afterWindow Demo.windowed.world.db row) ∧
      refusal (dispatch Demo.afterWindow Demo.windowed.world.db (.autoConfirmSettlement "t")) =
        some ⟨409, "confirm_window_hours not set"⟩ ∧
      ¬TimesOut {} Demo.windowed.world.db "t" (3600 + 48 * 3600) := by
  have there : ∃ row, Demo.windowed.world.db.settlements.get "t" = some row ∧
      row.updatedAt = 3600 ∧ row.clientAgentId = Demo.buyer := by
    have facts : (Demo.windowed.world.db.settlements.get "t").map (fun row =>
        (row.updatedAt, row.clientAgentId)) = some (3600, Demo.buyer) := by decide +kernel
    obtain ⟨row, there, same⟩ := Option.map_eq_some_iff.mp facts
    exact ⟨row, there, congrArg Prod.fst same, congrArg Prod.snd same⟩
  obtain ⟨row, there, since, client⟩ := there
  have met := client_gatesMet {} row (3600 + 48 * 3600) delivered_windowed.anchored
  rw [client] at met
  exact ⟨delivered_windowed, ⟨row, there, since, met⟩, by decide +kernel,
    not_timesOut there delivered_windowed.anchored⟩

end TrustChain.Service
