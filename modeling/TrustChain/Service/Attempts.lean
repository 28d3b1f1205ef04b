import TrustChain.Library.Logged
import TrustChain.Service.System

/-!
# Attempted transitions

Every route that moves a settlement on checks the request, attempts a transition, and in some
cases does more, up to a second transition. Each attempt is audited, also a refused one. What a
request has audited is its log; the tables have it only if the request is stored.
-/

namespace TrustChain.Service

open Library

/-- `_apply_transition`, with the audit that it flushes before it returns or raises. -/
def attempt (request : Request) (db : Db) (state : SettlementState) (target : TaskStatus) :
    Logged TransitionAudit HttpError Db :=
  let audit := TransitionAudit.mk state.taskId (some state.status) target
  if canTransition state.status target then
    match saveSettlement 409 db (state.moveTo target request.now) with
    | .ok saved => ⟨[audit true], .ok (saved.audit (audit true))⟩
    | .error error => ⟨[audit false], .error error⟩
  else
    ⟨[audit false],
      .error ⟨409, "invalid status transition: " ++ state.status.value ++ " -> " ++ target.value⟩⟩

/-- What a route is about to do after its checks: the rows as the session has them, the settlement,
and the status that it is to move to. -/
structure Opening where
  session : Db
  state : SettlementState
  target : TaskStatus

/-- The checks of a route up to its first transition, if it has any. -/
def opening (request : Request) (db : Db) : Call → Except HttpError (Option Opening)
  | .markSettlementPending taskId => do
      let state ← openTask request db taskId .newTask
      requireBuyer request state
      .ok (some ⟨db, state, .pending⟩)
  | .lockSettlement taskId workerAgentId => do
      let state ← openTask request db taskId .newTask
      requireBuyer request state
      require (workerAgentId ≠ state.clientAgentId)
        ⟨409, "worker_agent_id cannot equal settlement buyer (client_agent_id)"⟩
      assertLockDoesNotClosePaymentCycle request db taskId state.clientAgentId workerAgentId
      require (¬(request.config.settlementLockRequiresPending = true ∧ state.status = .draft))
        ⟨409, "settlement must be moved to pending before lock (settlement_lock_requires_pending)"⟩
      .ok (some ⟨db, { state with workerAgentId := some workerAgentId }, .accepted⟩)
  | .startSettlement taskId => do
      let state ← openTask request db taskId .newTask
      requireWorker request state
      .ok (some ⟨db, state, .inProgress⟩)
  | .submitSettlement taskId => do
      let state ← openTask request db taskId .newTask
      requireWorker request state
      assertDeliveryGate request
      .ok (some ⟨db, state, .delivered⟩)
  | .failSettlement taskId => do
      let state ← openTask request db taskId .newTask
      requireBuyerOrWorker request state
      .ok (some ⟨db, state, .cancelled⟩)
  | .partialSettlement taskId settledValuePercent => do
      require (0 < settledValuePercent ∧ settledValuePercent ≤ 100)
        ⟨422, "settled_value_percent must be in (0, 100]"⟩
      let state ← openTask request db taskId .newSettlement
      requireBuyer request state
      assertPartialCeiling state settledValuePercent (confirmedProgressPercent db taskId)
      let split := percentSplit state.escrowAmount settledValuePercent
      ensureSuccessReceipt request db taskId split.1
      .ok (some ⟨db, state.release split.1 split.2 request.now, .settled⟩)
  | .regretSettlement taskId buyerIdentityId => do
      let state ← openTask request db taskId .newSettlement
      requireBuyer request state
      require (buyerIdentityId = none ∨ buyerIdentityId = some state.clientAgentId)
        ⟨403, "buyer_identity_id does not match settlement buyer (client_agent_id)"⟩
      let split := percentSplit state.escrowAmount (confirmedProgressPercent db taskId)
      ensureSuccessReceipt request db taskId split.1
      .ok (some ⟨db, state.release split.1 split.2 request.now, .settled⟩)
  | .openDispute taskId => do
      let state ← getSettlement db taskId
      requireBuyer request state
      let moved ← moveReservedToDisputed db state.clientAgentId state.escrowAmount
      .ok (some ⟨moved, state, .disputed⟩)
  | .buyerAcceptSettlement taskId sceneId => do
      let state ← getSettlement db taskId
      requireBuyer request state
      require (state.status = .delivered) ⟨409, "buyer accept requires delivered status"⟩
      assertRuntimeOperationAllowed request .newSettlement
      auditCapacityAnchor db
      assertDeliveryGate request
      require (request.gates.settleConfirmed = true)
        ⟨403, "buyer_accept_settle_confirmation_required"⟩
      ensureSuccessReceipt request db taskId state.escrowAmount
      .ok (some ⟨db, (state.hintScene sceneId).release (cents state.escrowAmount) 0 request.now,
        .settled⟩)
  | .autoConfirmSettlement taskId => do
      let state ← getSettlement db taskId
      require (state.status = .delivered)
        ⟨409, "auto-confirm requires delivered, got " ++ state.status.value⟩
      match state.confirmWindowHours with
      | none => .error ⟨409, "confirm_window_hours not set"⟩
      | some hours => do
          let deadline := state.confirmDeadlineAt.getD (state.updatedAt + hours * 3600)
          require (deadline ≤ request.now) ⟨409, "confirm window not expired"⟩
          requireBuyerOrWorker request state
          assertRuntimeOperationAllowed request .newSettlement
          auditCapacityAnchor db
          assertDeliveryGate request
          require (request.gates.autoConfirm = true) ⟨409, "auto_confirm_forbidden_for_scene"⟩
          .ok (some ⟨db, { state with confirmDeadlineAt := some deadline }, .autoConfirmed⟩)
  | .buyerRejectSettlement taskId => do
      let state ← getSettlement db taskId
      requireBuyer request state
      require (state.status = .delivered)
        ⟨409, "buyer reject requires delivered status, got " ++ state.status.value⟩
      let moved ← moveReservedToDisputed db state.clientAgentId state.escrowAmount
      .ok (some ⟨moved, state, .disputed⟩)
  | .autoArbitrate taskId _ => do
      let state ← getSettlement db taskId
      requireBuyerOrWorker request state
      .ok (some ⟨db, state, .arbitrated⟩)
  | _ => .ok none

/-- What follows the transition of a resolution. -/
def settle (db : Db) (state : SettlementState) (settledAmount refundedAmount : ℚ) :
    Except HttpError Db := do
  let resolved ← applyCapacityResolution db state.clientAgentId state.escrowAmount settledAmount
    refundedAmount
  .ok (markVoucherUsedIfLinked resolved state.taskId)

/-- What follows the transition of a full release to the seller. -/
def settleFull (db : Db) (state : SettlementState) : Except HttpError Db := do
  let resolved ← applyCapacityResolution db state.clientAgentId state.escrowAmount
    state.escrowAmount 0
  .ok (markVoucherUsedIfLinked (releaseProfileIfBound resolved state) state.taskId)

/-- How automatic arbitration splits the escrow of a settlement. -/
def arbitrationSplit (request : Request) (first : Opening) (taskId : TaskId)
    (bundle : Option BundleVerdict) : ℚ × ℚ :=
  adjustAutoSplitForRules (buildAutoArbitrationContext request first.session first.state bundle)
    (confirmedProgressPercent first.session taskId) first.state.escrowAmount

/-- The arbitrated settlement, with the split of its escrow. -/
def Opening.released (request : Request) (first : Opening) (split : ℚ × ℚ) : SettlementState :=
  { first.state.moveTo .arbitrated request.now with
    releasedAmount := some split.1
    refundedAmount := some split.2
    releasedAt := if 0 < split.1 then some request.now else none }

/-- What a route does after its first transition. -/
def ending (request : Request) (first : Opening) (moved : Db) :
    Call → Logged TransitionAudit HttpError Db
  | .partialSettlement .. | .regretSettlement .. =>
      .lift (settle moved first.state (first.state.releasedAmount.getD 0)
        (first.state.refundedAmount.getD 0))
  | .buyerAcceptSettlement .. => .lift (settleFull moved first.state)
  | .autoConfirmSettlement _ => do
      let released := (first.state.moveTo .autoConfirmed request.now).release
        (cents first.state.escrowAmount) 0 request.now
      let settled ← attempt request moved released .settled
      .lift (settleFull settled released)
  | .autoArbitrate taskId bundle => do
      let split := arbitrationSplit request first taskId bundle
      Logged.lift (ensureSuccessReceipt request first.session taskId split.1)
      let decision := if split.1 ≤ 1 / 10 ^ 6 then TaskStatus.refunded else .settled
      let decided ← attempt request moved (first.released request split) decision
      .lift (settle decided (first.released request split) split.1 split.2)
  | _ => pure moved

/-- A route from its checks to its end. -/
def route (request : Request) (db : Db) (call : Call) : Logged TransitionAudit HttpError Db := do
  let found ← Logged.lift (opening request db call)
  match found with
  | some first => do
      let moved ← attempt request first.session first.state first.target
      ending request first moved call
  | none => .lift (dispatch request db call)

/-- A request, with what it audits. -/
def traced (request : Request) (db : Db) : Call → Logged TransitionAudit HttpError Db
  | .createSettlement body => do
      let created ← Logged.lift (createSettlement request db body)
      Logged.note ⟨body.taskId, none, .draft, true⟩
      pure created
  | call => route request db call

/-- The voucher that an acceptance gets to after its checks. -/
def accepting (request : Request) (db : Db) : Call → Except HttpError (Option Voucher)
  | .acceptVoucher voucherId sellerIdentityId => do
      assertRuntimeOperationAllowed request .newAuthorization
      auditCapacityAnchor db
      requireLedgerIdentity request sellerIdentityId
      some <$> getVoucher db voucherId
  | .acceptPaymentCode voucherId sellerIdentityId => do
      requireLedgerIdentity request sellerIdentityId
      some <$> getVoucher db voucherId
  | _ => .ok none

/-- The voucher that a call accepts. -/
def Call.accepts : Call → Option VoucherId
  | .acceptVoucher voucherId _ | .acceptPaymentCode voucherId _ => some voucherId
  | _ => none

/-- Whether a call is one of the settlement routes. -/
def Call.settles : Call → Bool
  | .createSettlement _ | .markSettlementPending _ | .lockSettlement .. | .startSettlement _
  | .submitSettlement _ | .failSettlement _ | .partialSettlement .. | .regretSettlement ..
  | .openDispute _ | .buyerAcceptSettlement .. | .autoConfirmSettlement _
  | .buyerRejectSettlement _ | .autoArbitrate .. => true
  | _ => false

section Outcomes

variable {request : Request} {db : Db} {state : SettlementState} {target : TaskStatus} {call : Call}

/-- An attempt is audited once, with the statuses and whether it was allowed. -/
theorem attempt_cases :
    (∃ saved, canTransition state.status target = true ∧
      saveSettlement 409 db (state.moveTo target request.now) = .ok saved ∧
      attempt request db state target =
        ⟨[⟨state.taskId, some state.status, target, true⟩],
          .ok (saved.audit ⟨state.taskId, some state.status, target, true⟩)⟩) ∨
    ∃ error, applyTransition request db state target = .error error ∧
      attempt request db state target =
        ⟨[⟨state.taskId, some state.status, target, false⟩], .error error⟩ := by
  unfold attempt applyTransition
  by_cases allowed : canTransition state.status target = true
  · cases saved : saveSettlement 409 db (state.moveTo target request.now) with
    | ok stored => exact .inl ⟨stored, allowed, rfl, by simp [allowed]⟩
    | error error => exact .inr ⟨error, by simp [allowed, require], by simp [allowed]⟩
  · exact .inr ⟨_, by simp [allowed, require]; rfl, by simp [allowed]⟩

@[simp] theorem attempt_outcome :
    (attempt request db state target).outcome = applyTransition request db state target := by
  rcases @attempt_cases request db state target with
    ⟨saved, allowed, stored, is⟩ | ⟨error, refused, is⟩
  · rw [is, applyTransition, require_ok allowed, ok_bind, stored]
    rfl
  · rw [is, refused]

/-- The log of a request tells nothing of its outcome: the routes are as they were. -/
theorem traced_outcome : (traced request db call).outcome = dispatch request db call := by
  cases call with
  | createSettlement body =>
      simp only [traced, dispatch, Logged.outcome_bind, Logged.outcome_lift, Logged.outcome_note,
        ok_bind, Logged.outcome_pure, bind_ok_self]
  | markSettlementPending | lockSettlement | startSettlement | submitSettlement | failSettlement
  | openDispute | buyerRejectSettlement =>
      simp only [traced, route, opening, dispatch, markSettlementPending, lockSettlement,
        startSettlement, submitSettlement, failSettlement, openDispute, buyerRejectSettlement,
        ending, Logged.outcome_bind, Logged.outcome_lift, attempt_outcome, bind_assoc, ok_bind,
        Logged.outcome_pure, bind_ok_self]
  | partialSettlement | regretSettlement | autoArbitrate =>
      simp only [traced, route, opening, dispatch, partialSettlement, regretSettlement,
        autoArbitrate, finalize, settle, ending, Logged.outcome_bind, Logged.outcome_lift,
        attempt_outcome, bind_assoc, ok_bind]
      rfl
  | buyerAcceptSettlement taskId sceneId =>
      simp only [traced, route, opening, dispatch, buyerAcceptSettlement, finalizeFull, settleFull,
        ending, Logged.outcome_bind, Logged.outcome_lift, attempt_outcome, bind_assoc, ok_bind]
  | autoConfirmSettlement taskId =>
      simp only [traced, route, opening, dispatch, autoConfirmSettlement, finalizeFull, settleFull,
        ending, Logged.outcome_bind, Logged.outcome_lift, bind_assoc]
      apply bind_congr
      intro state
      apply bind_congr
      intro _
      cases state.confirmWindowHours with
      | none => rfl
      | some hours =>
          simp only [bind_assoc, ok_bind, Logged.outcome_bind, Logged.outcome_lift, attempt_outcome]
  | _ => rfl

end Outcomes

end TrustChain.Service
