import TrustChain.Service.Attempts
import TrustChain.Service.Routes

/-!
# The audits of transitions

A refused transition raises, and so does what follows one that is allowed; the request is undone
then, and its audits with it. They are kept exactly if nothing is refused from the first attempt
on. In the same way a voucher that is found expired when it is to be accepted is not stored so.
-/

namespace TrustChain.Service

open Library

section Audits

variable {request : Request} {db : Db} {state : SettlementState} {target : TaskStatus} {call : Call}

theorem saveSettlement_audits {errorStatus : Nat} {saved : Db}
    (stored : saveSettlement errorStatus db state = .ok saved) : saved.audits = db.audits := by
  unfold saveSettlement at stored
  split at stored
  · cases stored
  · obtain rfl := Except.ok.inj stored
    rfl

theorem attempt_log_ne : (attempt request db state target).log ≠ [] := by
  rcases @attempt_cases request db state target with ⟨saved, -, -, is⟩ | ⟨error, -, is⟩
  · simp [is]
  · simp [is]

theorem attempt_records : Logged.Records Db.audits db (attempt request db state target) := by
  intro after ended
  rcases @attempt_cases request db state target with ⟨saved, -, stored, is⟩ | ⟨error, -, is⟩
  · rw [is] at ended ⊢
    obtain rfl := Except.ok.inj ended
    simp [Db.audit, saveSettlement_audits stored]
  · rw [is] at ended
    cases ended

/-- A refused transition. -/
def TransitionAudit.Refused (audit : TransitionAudit) : Prop := audit.transitionAllowed = false

theorem attempt_stops :
    Logged.Stops TransitionAudit.Refused (attempt request db state target) := by
  intro entry member refused
  rcases @attempt_cases request db state target with ⟨saved, -, -, is⟩ | ⟨error, -, is⟩
  · rw [is, List.mem_singleton] at member
    subst member
    cases refused
  · exact ⟨error, by rw [is]⟩

/-! ## The parts of a request -/

section Parts

variable {first : Opening} {moved next : Db} {buyerIdentityId : IdentityId}
  {escrowAmount settledAmount refundedAmount : ℚ}

theorem moveReservedToDisputed_audits
    (ran : moveReservedToDisputed db buyerIdentityId escrowAmount = .ok next) :
    next.audits = db.audits := by
  obtain ⟨cap, -, -, rfl⟩ := moveReservedToDisputed_ok ran
  rfl

/-- No settlement has a confirmation window, as it has no column. -/
theorem autoConfirm_unopened {taskId : TaskId} {found : Option Opening} :
    opening request db (.autoConfirmSettlement taskId) ≠ .ok found := by
  intro opened
  simp only [opening, bind_eq_ok] at opened
  obtain ⟨state, there, _, -, opened⟩ := opened
  obtain ⟨row, -, rfl⟩ := getSettlement_eq_ok.1 there
  cases opened

/-- The checks of a route audit nothing. -/
theorem opening_audits (opened : opening request db call = .ok (some first)) :
    first.session.audits = db.audits := by
  cases call with
  | openDispute taskId =>
      simp only [opening, bind_eq_ok, Except.ok.injEq, Option.some.injEq] at opened
      obtain ⟨state, -, _, -, moved, froze, rfl⟩ := opened
      exact moveReservedToDisputed_audits froze
  | buyerRejectSettlement taskId =>
      simp only [opening, bind_eq_ok, Except.ok.injEq, Option.some.injEq] at opened
      obtain ⟨state, -, _, -, _, -, moved, froze, rfl⟩ := opened
      exact moveReservedToDisputed_audits froze
  | autoConfirmSettlement taskId => exact absurd opened autoConfirm_unopened
  | markSettlementPending | startSettlement | failSettlement | autoArbitrate =>
      simp only [opening, bind_eq_ok, Except.ok.injEq, Option.some.injEq] at opened
      obtain ⟨state, -, _, -, rfl⟩ := opened
      rfl
  | submitSettlement =>
      simp only [opening, bind_eq_ok, Except.ok.injEq, Option.some.injEq] at opened
      obtain ⟨state, -, _, -, _, -, rfl⟩ := opened
      rfl
  | lockSettlement | partialSettlement | regretSettlement =>
      simp only [opening, bind_eq_ok, Except.ok.injEq, Option.some.injEq] at opened
      obtain ⟨_, -, _, -, _, -, _, -, _, -, rfl⟩ := opened
      rfl
  | buyerAcceptSettlement =>
      simp only [opening, bind_eq_ok, Except.ok.injEq, Option.some.injEq] at opened
      obtain ⟨_, -, _, -, _, -, _, -, _, -, _, -, _, -, _, -, rfl⟩ := opened
      rfl
  | _ => cases opened

/-- A settlement route other than the creation attempts a transition unless it raises before. -/
theorem opening_some (settles : call.settles = true)
    (other : ∀ body, call ≠ .createSettlement body) : opening request db call ≠ .ok none := by
  intro opened
  cases call with
  | createSettlement body => exact other body rfl
  | autoConfirmSettlement taskId => exact autoConfirm_unopened opened
  | markSettlementPending | lockSettlement | startSettlement | submitSettlement | failSettlement
  | partialSettlement | regretSettlement | openDispute | buyerAcceptSettlement
  | buyerRejectSettlement | autoArbitrate =>
      simp [opening, bind_eq_ok] at opened
  | _ => cases settles

theorem settle_audits (ran : settle db state settledAmount refundedAmount = .ok next) :
    next.audits = db.audits := by
  simp only [settle, bind_eq_ok, Except.ok.injEq] at ran
  obtain ⟨resolved, resolves, rfl⟩ := ran
  obtain ⟨capacity, -, rfl⟩ := applyCapacityResolution_ok resolves
  rw [markVoucherUsedIfLinked_eq]

theorem settleFull_audits (ran : settleFull db state = .ok next) : next.audits = db.audits := by
  simp only [settleFull, bind_eq_ok, Except.ok.injEq] at ran
  obtain ⟨resolved, resolves, rfl⟩ := ran
  obtain ⟨capacity, -, rfl⟩ := applyCapacityResolution_ok resolves
  obtain ⟨profiles, released⟩ := releaseProfileIfBound_eq { db with
    capacity
    resolutions := db.resolutions ++
      [⟨state.clientAgentId, state.escrowAmount, state.escrowAmount, 0⟩] } state
  rw [markVoucherUsedIfLinked_eq, released]

theorem ending_records : Logged.Records Db.audits moved (ending request first moved call) := by
  cases call with
  | partialSettlement | regretSettlement =>
      apply Logged.records_lift
      intro after ran
      exact settle_audits ran
  | buyerAcceptSettlement =>
      apply Logged.records_lift
      intro after ran
      exact settleFull_audits ran
  | autoConfirmSettlement =>
      apply attempt_records.bind
      intro settled _
      apply Logged.records_lift
      intro after ran
      exact settleFull_audits ran
  | autoArbitrate =>
      apply Logged.records_lift_bind
      intro _ _
      apply attempt_records.bind
      intro decided _
      apply Logged.records_lift
      intro after ran
      exact settle_audits ran
  | _ =>
      apply Logged.records_lift
      intro after ran
      obtain rfl := Except.ok.inj ran
      rfl

theorem ending_stops : Logged.Stops TransitionAudit.Refused (ending request first moved call) := by
  cases call with
  | autoConfirmSettlement =>
      apply attempt_stops.bind
      intro settled
      exact Logged.stops_lift
  | autoArbitrate =>
      apply Logged.stops_lift.bind
      intro _
      apply attempt_stops.bind
      intro decided
      exact Logged.stops_lift
  | _ => exact Logged.stops_lift

end Parts

/-! ## Whole requests -/

/-- A settlement route that succeeds has stored the audits of its attempts. -/
theorem traced_records (settles : call.settles = true) :
    Logged.Records Db.audits db (traced request db call) := by
  by_cases creates : ∃ body, call = .createSettlement body
  · obtain ⟨body, rfl⟩ := creates
    apply Logged.records_lift_bind
    intro created ran after ended
    obtain rfl := Except.ok.inj ended
    simp only [createSettlement, bind_eq_ok, Except.ok.injEq] at ran
    obtain ⟨_, -, _, -, _, -, _, -, voucher, -, _, -, saved, stored, rfl⟩ := ran
    exact congrArg (· ++ _) (saveSettlement_audits stored)
  · have other : ∀ body, call ≠ .createSettlement body := fun body is => creates ⟨body, is⟩
    have same : traced request db call = route request db call := by
      cases call with
      | createSettlement body => exact absurd rfl (other body)
      | _ => rfl
    rw [same]
    apply Logged.records_lift_bind
    intro found opened
    cases found with
    | none => exact absurd opened (opening_some settles other)
    | some first =>
        apply (attempt_records.of_same (opening_audits opened)).bind
        intro moved _
        exact ending_records

theorem traced_stops : Logged.Stops TransitionAudit.Refused (traced request db call) := by
  have routes : Logged.Stops TransitionAudit.Refused (route request db call) := by
    apply Logged.stops_lift.bind
    intro found
    cases found with
    | none => exact Logged.stops_lift
    | some first =>
        apply attempt_stops.bind
        intro moved
        exact ending_stops
  cases call with
  | createSettlement body =>
      apply Logged.stops_lift.bind
      intro created entry member refused
      obtain rfl := List.mem_singleton.1 member
      cases refused
  | _ => exact routes

end Audits

/-! ## Recorded requests

Which requests leave a record of what they attempted: those from whose first attempt on nothing
is refused, and that do not find a voucher expired.
-/

/-- The capacity resolution of a settlement is not refused. -/
def Resolves (db : Db) (state : SettlementState) (settledAmount refundedAmount : ℚ) : Prop :=
  ∃ after, applyCapacityResolution db state.clientAgentId state.escrowAmount settledAmount
    refundedAmount = .ok after

/-- The table of the transitions and the guard of the store allow the first transition. -/
def Opening.Allowed (request : Request) (first : Opening) : Prop :=
  canTransition first.state.status first.target = true ∧
    ∃ row, saveRow (first.session.settlements.get first.state.taskId)
      (first.state.moveTo first.target request.now) = .ok row

/-- What a route does after its first transition is not refused in the state before it. -/
def Opening.Concludes (request : Request) (first : Opening) : Call → Prop
  | .partialSettlement .. | .regretSettlement .. =>
      Resolves first.session first.state (first.state.releasedAmount.getD 0)
        (first.state.refundedAmount.getD 0)
  | .buyerAcceptSettlement .. => Resolves first.session first.state first.state.escrowAmount 0
  | .autoArbitrate taskId bundle =>
      let split := arbitrationSplit request first taskId bundle
      ensureSuccessReceipt request first.session taskId split.1 = .ok () ∧
        Resolves first.session first.state split.1 split.2
  | _ => True

/-- Nothing is refused from the first transition on, and no voucher is found expired. -/
structure Unhindered (request : Request) (db : Db) (call : Call) : Prop where
  transition : ∀ first, opening request db call = .ok (some first) →
    first.Allowed request ∧ first.Concludes request call
  acceptance : ∀ row, accepting request db call = .ok (some row) → row.status = .created →
    request.now < row.expiryTime

/-- What a request leaves, once it has been stored or undone. -/
def handled (request : Request) (db : Db) (call : Call) : Db :=
  (traced request db call).persisted db

/-- A settlement route leaves one audit for each attempt, a refused transition changes nothing
else, and a voucher whose acceptance is refused as it has expired is stored so. -/
structure Recorded (request : Request) (db : Db) (call : Call) : Prop where
  audited : call.settles = true →
    (handled request db call).audits = db.audits ++ (traced request db call).log
  undone : (∃ audit ∈ (traced request db call).log, audit.Refused) →
    (handled request db call).settlements = db.settlements ∧
      (handled request db call).capacity = db.capacity ∧
      (handled request db call).vouchers = db.vouchers
  expired : ∀ voucherId row, call.accepts = some voucherId →
    accepting request db call = .ok (some row) → row.status = .created →
    row.expiryTime ≤ request.now →
    ∃ stored, (handled request db call).vouchers.get voucherId = some stored ∧
      stored.status = .expired

section Requests

variable {request : Request} {db other moved : Db} {state : SettlementState} {target : TaskStatus}
  {call : Call} {first : Opening} {settledAmount refundedAmount : ℚ}

/-! ## What follows a transition -/

/-- Whether a resolution is refused depends on the capacity alone. -/
theorem Resolves.of_same (resolves : Resolves db state settledAmount refundedAmount)
    (same : other.capacity = db.capacity) : Resolves other state settledAmount refundedAmount := by
  obtain ⟨after, ran⟩ := resolves
  unfold Resolves
  unfold applyCapacityResolution at ran ⊢
  rw [same]
  cases there : db.capacity.get state.clientAgentId with
  | none => exact ⟨_, rfl⟩
  | some cap =>
      simp only [there, bind_eq_ok, storeCapacity_eq_ok] at ran ⊢
      obtain ⟨_, bills, _, locked, taken, takes, ⟨balanced, anchored⟩, -⟩ := ran
      refine ⟨_, _, bills, _, locked, taken, takes, ⟨balanced, ?_⟩, rfl⟩
      exact anchored

theorem resolves_congr (same : other.capacity = db.capacity) :
    Resolves other state settledAmount refundedAmount ↔
      Resolves db state settledAmount refundedAmount := by
  constructor
  · intro resolves
    exact resolves.of_same same.symm
  · intro resolves
    exact resolves.of_same same

theorem settle_iff : (∃ after, settle db state settledAmount refundedAmount = .ok after) ↔
    Resolves db state settledAmount refundedAmount := exists_bind_ok_iff

theorem settleFull_iff : (∃ after, settleFull db state = .ok after) ↔
    Resolves db state state.escrowAmount 0 := exists_bind_ok_iff

theorem transition_iff : (∃ next, applyTransition request db state target = .ok next) ↔
    canTransition state.status target = true ∧
      ∃ row, saveRow (db.settlements.get state.taskId) (state.moveTo target request.now) =
        .ok row := by
  simp only [applyTransition, bind_eq_ok, require_eq_ok]
  have saves : (∃ next, saveSettlement 409 db (state.moveTo target request.now) = .ok next) ↔
      ∃ row, saveRow (db.settlements.get state.taskId) (state.moveTo target request.now) =
        .ok row := by
    unfold saveSettlement
    have same : (state.moveTo target request.now).taskId = state.taskId := rfl
    rw [same]
    cases saveRow (db.settlements.get state.taskId) (state.moveTo target request.now) with
    | ok row => simp
    | error detail => simp
  rw [← saves]
  constructor
  · rintro ⟨_, _, allowed, next, saved, -⟩
    exact ⟨allowed, next, saved⟩
  · rintro ⟨allowed, next, saved⟩
    exact ⟨_, (), allowed, next, saved, rfl⟩

theorem transition_capacity (ran : applyTransition request db state target = .ok moved) :
    moved.capacity = db.capacity := by
  obtain ⟨-, audits, rfl⟩ := transition_ok ran
  rfl

/-- Once a settlement is arbitrated, its decision is allowed. -/
theorem decision_allowed {decided : SettlementState} {decision : TaskStatus}
    (ran : applyTransition request db state .arbitrated = .ok moved)
    (decides : decision = .refunded ∨ decision = .settled)
    (status : decided.status = .arbitrated) (taskId : decided.taskId = state.taskId)
    (unchanged : (state.movedRow .arbitrated request.now).changedField decided.toRow = none) :
    ∃ next, applyTransition request moved decided decision = .ok next := by
  obtain ⟨-, audits, rfl⟩ := transition_ok ran
  have allowed : canTransition .arbitrated decision = true := by
    rcases decides with rfl | rfl
    · decide
    · decide
  have kept : (state.movedRow .arbitrated request.now).changedField
      (decided.moveTo decision request.now).toRow = none := unchanged
  have moves : canTransition .arbitrated (canonicalTaskStatus decision) = true := by
    rcases decides with rfl | rfl
    · decide
    · decide
  rw [transition_iff, status, taskId, Table.get_set_self]
  refine ⟨allowed, (decided.moveTo decision request.now).toRow, ?_⟩
  simp only [saveRow, kept, ite_self]
  rw [require_ok (.inr moves)]
  rfl

/-- Every part of a route after its first transition succeeds exactly if it does so before. -/
theorem ending_iff (opened : opening request db call = .ok (some first))
    (ran : applyTransition request first.session first.state first.target = .ok moved) :
    (∃ after, (ending request first moved call).outcome = .ok after) ↔
      first.Concludes request call := by
  have capacity := transition_capacity ran
  cases call with
  | partialSettlement | regretSettlement =>
      simp only [ending, Logged.outcome_lift, Opening.Concludes]
      rw [settle_iff, resolves_congr capacity]
  | buyerAcceptSettlement =>
      simp only [ending, Logged.outcome_lift, Opening.Concludes]
      rw [settleFull_iff, resolves_congr capacity]
  | autoConfirmSettlement => exact absurd opened autoConfirm_unopened
  | autoArbitrate taskId bundle =>
      simp only [opening, bind_eq_ok, Except.ok.injEq, Option.some.injEq] at opened
      obtain ⟨state, -, _, -, rfl⟩ := opened
      simp only [ending, Logged.outcome_bind, Logged.outcome_lift, attempt_outcome, bind_eq_ok,
        Opening.Concludes]
      generalize arbitrationSplit request ⟨db, state, .arbitrated⟩ taskId bundle = split
      constructor
      · rintro ⟨after, _, ensured, decided, decides, settles⟩
        have resolves := settle_iff.1 ⟨after, settles⟩
        rw [resolves_congr (transition_capacity decides), resolves_congr capacity] at resolves
        exact ⟨ensured, resolves⟩
      · rintro ⟨ensured, resolves⟩
        have unchanged : (state.movedRow .arbitrated request.now).changedField
            (Opening.released request ⟨db, state, .arbitrated⟩ split).toRow = none := by
          simp [SettlementState.changedField, SettlementState.movedRow, SettlementState.toRow,
            SettlementState.moveTo, Opening.released]
        have allowed : ∃ decided, applyTransition request moved
            (Opening.released request ⟨db, state, .arbitrated⟩ split)
            (if split.1 ≤ 1 / 10 ^ 6 then .refunded else .settled) = .ok decided :=
          decision_allowed ran (ite_eq_or_eq _ _ _) rfl rfl unchanged
        obtain ⟨decided, decides⟩ := allowed
        have later := (resolves_congr ((transition_capacity decides).trans capacity)).2 resolves
        obtain ⟨after, settles⟩ := settle_iff.2 later
        exact ⟨after, (), ensured, decided, decides, settles⟩
  | _ =>
      simp only [Opening.Concludes, iff_true]
      exact ⟨moved, rfl⟩

/-! ## Requests -/

theorem route_kept_iff : (route request db call).Kept ↔
    ∀ first, opening request db call = .ok (some first) →
      first.Allowed request ∧ first.Concludes request call := by
  rw [route, Logged.kept_lift_bind]
  have attempted : ∀ first, opening request db call = .ok (some first) →
      ((attempt request first.session first.state first.target >>= fun moved =>
        ending request first moved call).Kept ↔
          first.Allowed request ∧ first.Concludes request call) := by
    intro first opened
    rw [Logged.kept_bind_iff attempt_log_ne, attempt_outcome, Opening.Allowed, ← transition_iff]
    constructor
    · rintro ⟨moved, ran, ends⟩
      exact ⟨⟨moved, ran⟩, (ending_iff opened ran).1 ends⟩
    · rintro ⟨⟨moved, ran⟩, concludes⟩
      exact ⟨moved, ran, (ending_iff opened ran).2 concludes⟩
  constructor
  · intro kept first opened
    exact (attempted first opened).1 (kept (some first) opened)
  · intro unhindered found opened
    cases found with
    | none => exact Logged.kept_lift
    | some first => exact (attempted first opened).2 (unhindered first opened)

theorem traced_kept_iff : (traced request db call).Kept ↔
    ∀ first, opening request db call = .ok (some first) →
      first.Allowed request ∧ first.Concludes request call := by
  cases call with
  | createSettlement body =>
      constructor
      · intro _ first opened
        cases opened
      · intro _
        apply Logged.kept_lift_bind.2
        intro created _
        exact .inr ⟨created, rfl⟩
  | _ => exact route_kept_iff

/-- A refused request leaves everything as it was. -/
theorem handled_of_error {error : HttpError} (failed : dispatch request db call = .error error) :
    handled request db call = db := by
  rw [handled, Logged.persisted, traced_outcome, failed]

/-- An expired voucher is refused. -/
theorem acceptance_refused {row : Voucher} (found : accepting request db call = .ok (some row))
    (created : row.status = .created) (expired : row.expiryTime ≤ request.now) :
    dispatch request db call = .error ⟨409, "voucher expired"⟩ := by
  have refused : ∀ voucherId seller, acceptVoucherRow request db voucherId row seller =
      .error ⟨409, "voucher expired"⟩ := by
    intro voucherId seller
    rw [acceptVoucherRow, require_ok created, ok_bind, require, if_neg (not_lt.2 expired)]
    rfl
  cases call with
  | acceptVoucher voucherId seller =>
      simp only [accepting, bind_eq_ok, map_eq_ok, Option.some.injEq] at found
      obtain ⟨_, allowed, _, anchored, _, ledger, _, there, rfl⟩ := found
      rw [dispatch, acceptVoucher, allowed, ok_bind, anchored, ok_bind, ledger, ok_bind, there,
        ok_bind, refused]
  | acceptPaymentCode voucherId seller =>
      simp only [accepting, bind_eq_ok, map_eq_ok, Option.some.injEq] at found
      obtain ⟨_, ledger, _, there, rfl⟩ := found
      rw [dispatch, acceptPaymentCode, ledger, ok_bind, there, ok_bind, refused]
  | _ => cases found

theorem accepting_row {row : Voucher} (found : accepting request db call = .ok (some row)) :
    ∃ voucherId, call.accepts = some voucherId ∧ db.vouchers.get voucherId = some row := by
  cases call with
  | acceptVoucher voucherId seller =>
      simp only [accepting, bind_eq_ok, map_eq_ok, Option.some.injEq] at found
      obtain ⟨_, -, _, -, _, -, _, there, rfl⟩ := found
      exact ⟨voucherId, rfl, getVoucher_eq_ok.1 there⟩
  | acceptPaymentCode voucherId seller =>
      simp only [accepting, bind_eq_ok, map_eq_ok, Option.some.injEq] at found
      obtain ⟨_, -, _, there, rfl⟩ := found
      exact ⟨voucherId, rfl, getVoucher_eq_ok.1 there⟩
  | _ => cases found

theorem settles_of_opening (opened : opening request db call = .ok (some first)) :
    call.settles = true := by
  cases call with
  | markSettlementPending | lockSettlement | startSettlement | submitSettlement | failSettlement
  | partialSettlement | regretSettlement | openDispute | buyerAcceptSettlement
  | autoConfirmSettlement | buyerRejectSettlement | autoArbitrate => rfl
  | _ => cases opened

/-- A request leaves a record of what it attempted exactly if nothing is refused from its first
transition on, and it finds no voucher expired. -/
theorem recorded_iff : Recorded request db call ↔ Unhindered request db call := by
  constructor
  · intro recorded
    constructor
    · intro first opened
      have settles := settles_of_opening opened
      have kept := (Logged.record_persisted_iff (traced_records settles)).1
        (recorded.audited settles)
      exact traced_kept_iff.1 kept first opened
    · intro row found created
      by_contra late
      have expired := not_lt.1 late
      obtain ⟨voucherId, accepts, there⟩ := accepting_row found
      obtain ⟨stored, is, marked⟩ := recorded.expired voucherId row accepts found created expired
      rw [handled_of_error (acceptance_refused found created expired), there] at is
      obtain rfl := Option.some.inj is
      rw [created] at marked
      cases marked
  · intro unhindered
    constructor
    · intro settles
      exact (Logged.record_persisted_iff (traced_records settles)).2
        (traced_kept_iff.2 unhindered.transition)
    · rintro ⟨audit, member, refused⟩
      obtain ⟨error, failed⟩ := traced_stops audit member refused
      rw [traced_outcome] at failed
      rw [handled_of_error failed]
      exact ⟨rfl, rfl, rfl⟩
    · intro voucherId row _ found created expired
      exact absurd (unhindered.acceptance row found created) (not_lt.2 expired)

end Requests

end TrustChain.Service
