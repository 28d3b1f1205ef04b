import TrustChain.Service.Effects

/-!
# What requests leave alone

Where the row of a settlement after a request comes from. A request changes the worker only when
it locks the settlement, and the amounts only when it resolves it.
-/

namespace TrustChain.Service

open Library

theorem stage_stage (row : SettlementState) : canonicalTaskStatus row.stage = row.stage := by
  rw [SettlementState.stage]
  cases row.status <;> rfl

/-- The amounts of a settlement stay as they are. -/
structure SettlementState.SameSplit (row next : SettlementState) : Prop where
  releasedAmount : next.releasedAmount = row.releasedAmount
  refundedAmount : next.refundedAmount = row.refundedAmount

/-- Whether a call locks a task. -/
def Call.Locks (taskId : TaskId) : Call → Prop
  | .lockSettlement task _ => task = taskId
  | _ => False

/-- What a request keeps of a settlement. -/
structure SettlementState.Carried (resolving locking : Prop) (row next : SettlementState) :
    Prop where
  profileId : next.profileId = row.profileId
  split : ¬resolving → row.SameSplit next
  workerAgentId : ¬locking → next.workerAgentId = row.workerAgentId

theorem SettlementState.Carried.refl (resolving locking : Prop) (row : SettlementState) :
    row.Carried resolving locking row :=
  ⟨rfl, fun _ => ⟨rfl, rfl⟩, fun _ => rfl⟩

/-- Where the row of a settlement comes from, with what is kept of it. -/
inductive RowOrigin (request : Request) (db : Db) (call : Call) (taskId : TaskId)
    (next : SettlementState) : Prop
  | carried (row : SettlementState) : db.settlements.get taskId = some row →
      row.Carried (call.resolves db = some taskId) (call.Locks taskId) next →
      RowOrigin request db call taskId next
  | created (body : CreateSettlementRequest) (voucher : Option Voucher) :
      call = .createSettlement body → taskId = body.taskId → db.settlements.get taskId = none →
      bindVoucher db body = .ok voucher → next = (body.draft voucher request.now).toRow →
      RowOrigin request db call taskId next

section Requests

variable {request : Request} {db next : Db} {call : Call} {taskId key : TaskId}
  {row old state stored : SettlementState} {target : TaskStatus}

theorem RowOrigin.carried_of_get (origin : RowOrigin request db call taskId row)
    (was : db.settlements.get taskId = some old) :
    old.Carried (call.resolves db = some taskId) (call.Locks taskId) row := by
  cases origin with
  | carried again there kept =>
      obtain rfl := Option.some.inj (was.symm.trans there)
      exact kept
  | created body voucher _ _ fresh => exact nomatch was.symm.trans fresh

theorem RowOrigin.kept (there : db.settlements.get taskId = some row) :
    RowOrigin request db call taskId row :=
  .carried row there (.refl _ _ row)

theorem rowOrigin_set {table : Table TaskId SettlementState} (same : table = db.settlements)
    (there : (table.set key stored).get taskId = some row)
    (was : db.settlements.get key = some old)
    (kept : old.Carried (call.resolves db = some key) (call.Locks key) stored) :
    RowOrigin request db call taskId row := by
  subst same
  rcases Table.get_set_eq_some.mp there with ⟨rfl, rfl⟩ | ⟨-, there⟩
  · exact .carried old was kept
  · exact .kept there

/-- A transition of a settlement in an unresolved task. -/
theorem transition_rowOrigin (wellFormed : db.WellFormed) {asked : Request}
    (was : db.settlements.get key = some old)
    (ran : applyTransition asked db state target = .ok next) (named : state.taskId = old.taskId)
    (kept : old.Carried (call.resolves db = some key) (call.Locks key) state)
    (there : next.settlements.get taskId = some row) : RowOrigin request db call taskId row := by
  obtain ⟨-, audits, rfl⟩ := transition_ok ran
  rw [named, wellFormed.keyed key old was] at there
  have split := fun unresolved => kept.split unresolved
  exact rowOrigin_set rfl there was ⟨kept.profileId,
    fun unresolved => ⟨(split unresolved).releasedAmount, (split unresolved).refundedAmount⟩,
    kept.workerAgentId⟩

/-- A route that only moves the row of a settlement on. -/
theorem moved_rowOrigin (wellFormed : db.WellFormed)
    (ran : ∃ old, db.settlements.get key = some old ∧
      applyTransition request db old.fromRow target = .ok next)
    (there : next.settlements.get taskId = some row) : RowOrigin request db call taskId row := by
  obtain ⟨old, was, moved⟩ := ran
  refine transition_rowOrigin wellFormed was moved rfl ?_ there
  exact ⟨rfl, fun _ => ⟨rfl, rfl⟩, fun _ => rfl⟩

theorem dispute_rowOrigin (wellFormed : db.WellFormed) (ran : Disputes request db key next)
    (there : next.settlements.get taskId = some row) : RowOrigin request db call taskId row := by
  obtain ⟨old, moved, was, froze, ran⟩ := ran
  obtain ⟨cap, -, -, rfl⟩ := moveReservedToDisputed_ok froze
  obtain ⟨-, audits, rfl⟩ := transition_ok ran
  rw [show old.fromRow.taskId = key from wellFormed.keyed key old was] at there
  exact rowOrigin_set rfl there was ⟨rfl, fun _ => ⟨rfl, rfl⟩, fun _ => rfl⟩

/-- A change of the status, and of when it was made. -/
theorem progress_rowOrigin (wellFormed : db.WellFormed)
    (was : db.settlements.get key = some old) (target : TaskStatus) {now : ℚ}
    (there : (db.settlements.set old.taskId
      { old.fromRow with status := target, updatedAt := now : SettlementState }.toRow).get taskId =
        some row) :
    RowOrigin request db call taskId row := by
  rw [wellFormed.keyed key old was] at there
  exact rowOrigin_set rfl there was ⟨rfl, fun _ => ⟨rfl, rfl⟩, fun _ => rfl⟩

theorem submission_rowOrigin {caller : Request} {progress : ProgressReceipt}
    (wellFormed : db.WellFormed) (ran : submitProgressReceipt caller db progress = .ok next)
    (there : next.settlements.get taskId = some row) : RowOrigin request db call taskId row := by
  obtain ⟨-, -, old, was, -, rfl⟩ := submitProgressReceipt_ok ran
  exact progress_rowOrigin wellFormed was .progressSubmitted there

/-- A resolution of the task that a call resolves. -/
theorem resolution_rowOrigin {task : TaskId}
    (there : (db.settlements.set task stored).get taskId = some row) (keyed : task = key)
    (resolves : call.resolves db = some key)
    (was : db.settlements.get key = some old) (profile : stored.profileId = old.profileId)
    (worker : stored.workerAgentId = old.workerAgentId) :
    RowOrigin request db call taskId row := by
  rw [keyed] at there
  exact rowOrigin_set rfl there was
    ⟨profile, fun unresolved => absurd resolves unresolved, fun _ => worker⟩

theorem hintScene_hands (state : SettlementState) (sceneId : Option String) :
    (state.hintScene sceneId).profileId = state.profileId ∧
      (state.hintScene sceneId).workerAgentId = state.workerAgentId := by
  unfold SettlementState.hintScene
  simp only []
  split
  · exact ⟨rfl, rfl⟩
  · exact ⟨rfl, rfl⟩

theorem dispatch_rowOrigin (wellFormed : db.WellFormed) (ran : dispatch request db call = .ok next)
    (there : next.settlements.get taskId = some row) : RowOrigin request db call taskId row := by
  cases call with
  | lockUsdc =>
      obtain ⟨-, rfl⟩ := lockUsdc_ok ran
      exact .kept there
  | releaseUnused =>
      obtain ⟨cap, -, -, -, rfl⟩ := releaseUnused_ok ran
      exact .kept there
  | allocate =>
      obtain ⟨profiles, rfl⟩ := allocate_ok ran
      exact .kept there
  | createVoucher =>
      obtain ⟨-, -, profiles, rfl⟩ := createVoucher_ok ran
      exact .kept there
  | acceptVoucher =>
      obtain ⟨voucher, -, accepted⟩ := acceptVoucher_ok ran
      obtain ⟨-, cap, -, -, rfl⟩ := acceptVoucherRow_ok accepted
      exact .kept there
  | acceptPaymentCode =>
      obtain ⟨voucher, -, accepted⟩ := acceptPaymentCode_ok ran
      obtain ⟨-, cap, -, -, rfl⟩ := acceptVoucherRow_ok accepted
      exact .kept there
  | rejectPaymentCode =>
      obtain ⟨voucher, -, -, rfl⟩ := rejectPaymentCode_ok ran
      exact .kept there
  | createSettlement body =>
      simp only [dispatch, createSettlement, bind_eq_ok, require_eq_ok] at ran
      obtain ⟨_, -, _, -, _, -, _, -, voucher, bound, _, fresh, saved, stored, audited⟩ := ran
      rw [saveSettlement_ok stored] at audited
      obtain rfl := Except.ok.inj audited
      change (db.settlements.set body.taskId (body.draft voucher request.now).toRow).get taskId =
        some row at there
      rcases Table.get_set_eq_some.mp there with ⟨rfl, is⟩ | ⟨-, there⟩
      · exact .created body voucher rfl rfl fresh bound is
      · exact .kept there
  | markSettlementPending | startSettlement | submitSettlement | failSettlement =>
      exact moved_rowOrigin wellFormed (movesOn_ok ran rfl) there
  | lockSettlement task worker =>
      obtain ⟨old, was, moved⟩ := lockSettlement_ok ran
      refine transition_rowOrigin wellFormed was moved rfl ?_ there
      exact ⟨rfl, fun _ => ⟨rfl, rfl⟩, fun unlocked => absurd rfl unlocked⟩
  | partialSettlement task percent =>
      obtain ⟨old, was, -, -, ran⟩ := partialSettlement_ok ran
      obtain ⟨-, capacity, audits, -, rfl⟩ := finalize_ok ran
      exact resolution_rowOrigin there (wellFormed.keyed task old was) rfl was rfl rfl
  | regretSettlement task buyer =>
      obtain ⟨old, was, ran⟩ := regretSettlement_ok ran
      obtain ⟨-, capacity, audits, -, rfl⟩ := finalize_ok ran
      exact resolution_rowOrigin there (wellFormed.keyed task old was) rfl was rfl rfl
  | openDispute => exact dispute_rowOrigin wellFormed (openDispute_ok ran) there
  | buyerAcceptSettlement task sceneId =>
      obtain ⟨old, was, -, ran⟩ := buyerAcceptSettlement_ok ran
      obtain ⟨-, capacity, audits, profiles, -, rfl⟩ := finalizeFull_ok ran
      have hinted := hintScene_hands old.fromRow sceneId
      have keyed := (hintScene_sameTerms old.fromRow sceneId).1.taskId.trans
        (wellFormed.keyed task old was)
      exact resolution_rowOrigin there keyed rfl was hinted.1 hinted.2
  | autoConfirmSettlement => exact absurd ran autoConfirmSettlement_refused
  | buyerRejectSettlement => exact dispute_rowOrigin wellFormed (buyerRejectSettlement_ok ran) there
  | autoArbitrate task bundle =>
      simp only [dispatch, autoArbitrate, bind_eq_ok, getSettlement_eq_ok] at ran
      obtain ⟨_, ⟨old, was, rfl⟩, _, -, arbitrated, moved, _, -, ran⟩ := ran
      obtain ⟨-, audits, rfl⟩ := transition_ok moved
      obtain ⟨-, capacity, audits, -, rfl⟩ := finalize_ok ran
      simp only [SettlementState.moveTo, Table.set_set] at there
      exact resolution_rowOrigin there (wellFormed.keyed task old was) rfl was rfl rfl
  | submitProgressReceipt => exact submission_rowOrigin wellFormed ran there
  | runtimeUpdateProgress =>
      exact submission_rowOrigin wellFormed (runtimeUpdateProgress_ok ran) there
  | confirmProgressReceipt =>
      obtain ⟨receipt, -, rfl | ⟨-, old, was, -, -, rfl⟩⟩ := confirmProgressReceipt_ok ran
      · exact .kept there
      · exact progress_rowOrigin wellFormed was .progressConfirmed there
  | timeoutConfirmProgress =>
      obtain ⟨old, was, -, rfl | ⟨-, rfl⟩⟩ := timeoutConfirmProgress_ok ran
      · exact .kept there
      · exact progress_rowOrigin wellFormed was .progressConfirmed there
  | createArbitrationCase caseId body =>
      obtain ⟨-, old, saved, was, rfl | ⟨-, rfl⟩, rfl⟩ := createArbitrationCase_ok ran
      · exact .kept there
      · exact progress_rowOrigin wellFormed was .arbitrated there
  | assignArbitrators =>
      obtain ⟨case_, assignments, -, rfl⟩ := assignArbitrators_ok ran
      exact .kept there
  | castVote =>
      obtain ⟨-, case_, -, rfl | rfl | rfl⟩ := castVote_ok ran
      · exact .kept there
      · exact .kept there
      · exact .kept there
  | executeArbitrationCase caseId =>
      obtain ⟨case_, outcome, old, found, -, was, capacity, -, -, rfl⟩ :=
        executeArbitrationCase_ok wellFormed.keyed ran
      have resolves : (Call.executeArbitrationCase caseId).resolves db = some case_.taskId := by
        rw [Call.resolves, found]
        rfl
      refine rowOrigin_set rfl there was
        ⟨rfl, fun unresolved => absurd resolves unresolved, fun _ => rfl⟩
  | joinArbitrationPool | storeContract | storeReceipt | storeRoleProfile =>
      obtain rfl := Except.ok.inj ran
      exact .kept there

end Requests

end TrustChain.Service
