import TrustChain.Service.System

/-!
# What each route leaves

Every route that succeeds, read backwards: which rows it found, which checks passed, and the
database it leaves.
-/

namespace TrustChain.Service

open Library

/-! ## Changes of rows -/

namespace Capacity

variable (cap : Capacity) (amount : ℚ)

def lock : Capacity :=
  { cap with
    totalLockedUsdc := cap.totalLockedUsdc + amount
    totalBillCredits := cap.totalBillCredits + amount
    availableCredits := cap.availableCredits + amount }

def release : Capacity :=
  { cap with
    availableCredits := cap.availableCredits - amount
    totalBillCredits := cap.totalBillCredits - amount
    totalLockedUsdc := cap.totalLockedUsdc - amount
    releasedCredits := cap.releasedCredits + amount }

def reserve : Capacity :=
  { cap with
    availableCredits := cap.availableCredits - amount
    reservedCredits := cap.reservedCredits + amount }

def freeze : Capacity :=
  { cap with
    reservedCredits := cap.reservedCredits - amount
    disputedCredits := cap.disputedCredits + amount }

/-- The escrow has been taken from a bucket, and is settled and refunded. -/
def resolve (settledAmount refundedAmount : ℚ) : Capacity :=
  { cap with
    burnedCredits := cap.burnedCredits + settledAmount
    releasedCredits := cap.releasedCredits + refundedAmount
    totalBillCredits := cap.totalBillCredits - amount
    totalLockedUsdc := cap.totalLockedUsdc - amount }

end Capacity

/-- What a resolution leaves in the capacity table. Without a row it changes nothing. -/
def ResolvedCapacity (capacity : Table IdentityId Capacity) (resolution : Resolution)
    (next : Table IdentityId Capacity) : Prop :=
  (capacity.get resolution.buyerIdentityId = none ∧ next = capacity) ∨
    ∃ cap taken, capacity.get resolution.buyerIdentityId = some cap ∧
      cap.takeEscrow resolution.escrowAmount = .ok taken ∧
      next = capacity.set resolution.buyerIdentityId
        (taken.resolve resolution.escrowAmount resolution.settledAmount resolution.refundedAmount)

/-- The vouchers after the one that a settlement is linked to has been used. -/
def useVoucher (vouchers : Table VoucherId Voucher) : Option VoucherId → Table VoucherId Voucher
  | none => vouchers
  | some voucherId =>
      match vouchers.get voucherId with
      | none => vouchers
      | some voucher =>
          if voucher.status = .accepted then
            vouchers.set voucherId { voucher with status := .used }
          else vouchers

/-- The canonical status of a row. -/
def SettlementState.stage (row : SettlementState) : TaskStatus := canonicalTaskStatus row.status

/-- What no transition changes. -/
structure SettlementState.SameTerms (row next : SettlementState) : Prop where
  taskId : next.taskId = row.taskId
  escrowAmount : next.escrowAmount = row.escrowAmount
  clientAgentId : next.clientAgentId = row.clientAgentId
  voucherId : next.voucherId = row.voucherId

theorem SettlementState.SameTerms.refl (row : SettlementState) : row.SameTerms row :=
  ⟨rfl, rfl, rfl, rfl⟩

/-! ## The parts of a request -/

section Parts

variable {request : Request} {db next : Db} {taskId : TaskId} {state row : SettlementState}
  {target : TaskStatus}

@[simp] theorem storeCapacity_eq_ok {identityId : IdentityId} {cap : Capacity} :
    storeCapacity db identityId cap = .ok next ↔
      (assertCapacityInvariants cap = .ok () ∧
        auditCapacityAnchor (db.setCapacity identityId cap) = .ok ()) ∧
        next = db.setCapacity identityId cap := by
  simp only [storeCapacity, bind_eq_ok, Except.ok.injEq]
  constructor
  · rintro ⟨_, checked, _, audited, rfl⟩
    exact ⟨⟨checked, audited⟩, rfl⟩
  · rintro ⟨⟨checked, audited⟩, rfl⟩
    exact ⟨(), checked, (), audited, rfl⟩

theorem findSettlement_eq_ok {notFound : String} :
    findSettlement db taskId notFound = .ok state ↔
      ∃ row, db.settlements.get taskId = some row ∧ state = row.fromRow := by
  unfold findSettlement
  cases db.settlements.get taskId <;> simp [eq_comm]

@[simp] theorem getSettlement_eq_ok :
    getSettlement db taskId = .ok state ↔
      ∃ row, db.settlements.get taskId = some row ∧ state = row.fromRow :=
  findSettlement_eq_ok

@[simp] theorem getTaskSettlement_eq_ok :
    getTaskSettlement db taskId = .ok state ↔
      ∃ row, db.settlements.get taskId = some row ∧ state = row.fromRow :=
  findSettlement_eq_ok

@[simp] theorem getCaseSettlement_eq_ok :
    getCaseSettlement db taskId = .ok state ↔
      ∃ row, db.settlements.get taskId = some row ∧ state = row.fromRow :=
  findSettlement_eq_ok

@[simp] theorem getVoucher_eq_ok {voucherId : VoucherId} {voucher : Voucher} :
    getVoucher db voucherId = .ok voucher ↔ db.vouchers.get voucherId = some voucher := by
  unfold getVoucher
  cases db.vouchers.get voucherId <;> simp

@[simp] theorem getCase_eq_ok {caseId : CaseId} {case_ : ArbitrationCase} :
    getCase db caseId = .ok case_ ↔ db.cases.get caseId = some case_ := by
  unfold getCase
  cases db.cases.get caseId <;> simp

theorem openTask_ok {operation : RuntimeOperation}
    (ran : openTask request db taskId operation = .ok state) :
    ∃ row, db.settlements.get taskId = some row ∧ state = row.fromRow := by
  simp only [openTask, bind_eq_ok] at ran
  obtain ⟨_, -, _, -, loaded⟩ := ran
  exact getSettlement_eq_ok.mp loaded

theorem saveRow_ok {existing : Option SettlementState} (saved : saveRow existing state = .ok row) :
    row = state.toRow := by
  unfold saveRow at saved
  split at saved
  · exact (Except.ok.inj saved).symm
  · simp only [require_bind_eq_ok] at saved
    obtain ⟨-, saved⟩ := saved
    split at saved
    · cases saved
    · exact (Except.ok.inj saved).symm

theorem saveSettlement_ok {errorStatus : Nat}
    (saved : saveSettlement errorStatus db state = .ok next) :
    next = db.setSettlement state.toRow := by
  unfold saveSettlement at saved
  split at saved
  · cases saved
  · next row stored =>
      obtain rfl := saveRow_ok stored
      exact (Except.ok.inj saved).symm

theorem applyTransition_ok (ran : applyTransition request db state target = .ok next) :
    canTransition state.status target = true ∧
      next = (db.setSettlement (state.moveTo target request.now).toRow).audit
        ⟨state.taskId, some state.status, target, true⟩ := by
  rw [applyTransition, require_bind_eq_ok, bind_eq_ok] at ran
  obtain ⟨allowed, saved, stored, audited⟩ := ran
  rw [← Except.ok.inj audited, saveSettlement_ok stored]
  exact ⟨allowed, rfl⟩

theorem fromRow_status (row : SettlementState) : row.fromRow.status = row.stage := rfl

end Parts

/-! ## Capacity and vouchers -/

section Credits

variable {request : Request} {db next : Db} {identityId : IdentityId} {amount : ℚ}
  {voucherId : VoucherId} {voucher : Voucher} {sellerIdentityId : IdentityId}

theorem lockUsdc_ok (ran : lockUsdc request db identityId amount = .ok next) :
    0 < amount ∧ next = db.setCapacity identityId ((db.credits identityId).lock amount) := by
  simp only [lockUsdc, amountRequest, bind_eq_ok, require_eq_ok] at ran
  obtain ⟨_, positive, _, -, _, -, _, -, _, -, _, -, stored⟩ := ran
  exact ⟨positive, (storeCapacity_eq_ok.mp stored).2⟩

theorem releaseUnused_ok (ran : releaseUnused request db identityId amount = .ok next) :
    ∃ cap, db.capacity.get identityId = some cap ∧ 0 < amount ∧
      amount ≤ cap.availableCredits + epsilon ∧
      next = db.setCapacity identityId (cap.release amount) := by
  simp only [releaseUnused, amountRequest, bind_eq_ok, require_eq_ok] at ran
  obtain ⟨_, positive, _, -, _, -, _, -, ran⟩ := ran
  split at ran
  · cases ran
  · next cap there =>
      simp only [assertCanReleaseLockedFunds, bind_eq_ok, require_eq_ok] at ran
      obtain ⟨_, ⟨_, -, _, available, -⟩, stored⟩ := ran
      exact ⟨cap, there, positive, available, (storeCapacity_eq_ok.mp stored).2⟩

theorem allocate_ok {allocations : List (ProfileId × ℚ)}
    (ran : allocate request db identityId allocations = .ok next) :
    ∃ profiles, next = { db with profiles } := by
  simp only [allocate, bind_eq_ok] at ran
  obtain ⟨_, -, _, -, ran⟩ := ran
  split at ran
  · cases ran
  · simp only [require_bind_eq_ok] at ran
    replace ran := ran.2
    clear * - ran
    induction allocations generalizing db with
    | nil => exact ⟨db.profiles, (Except.ok.inj ran).symm⟩
    | cons allocation rest ih =>
        rw [List.foldlM_cons, bind_eq_ok] at ran
        obtain ⟨middle, first, later⟩ := ran
        obtain ⟨profiles, rfl⟩ := ih later
        obtain ⟨others, rfl⟩ : ∃ others, middle = { db with profiles := others } := by
          simp only [allocateOne, require_bind_eq_ok] at first
          replace first := first.2
          split at first
          · exact ⟨_, (Except.ok.inj first).symm⟩
          · exact ⟨_, (Except.ok.inj (require_bind_eq_ok.mp first).2).symm⟩
        exact ⟨profiles, rfl⟩

theorem spendProfile_ok {profileId : ProfileId}
    (ran : spendProfileCredits db profileId amount = .ok next) :
    ∃ profiles, next = { db with profiles } := by
  unfold spendProfileCredits at ran
  split at ran
  · cases ran
  · exact ⟨_, (Except.ok.inj (require_bind_eq_ok.mp ran).2).symm⟩

theorem createVoucher_ok {body : CreateVoucherRequest}
    (ran : createVoucher request db voucherId body = .ok next) :
    db.vouchers.get voucherId = none ∧ 0 < body.billCreditAmount ∧
      ∃ profiles, next = { db with
        profiles, vouchers := db.vouchers.set voucherId body.voucher } := by
  simp only [createVoucher, bind_eq_ok, require_eq_ok] at ran
  obtain ⟨_, -, _, -, _, -, _, positive, _, -, _, -, spent, profile, _, -, _, -, _, fresh, stored⟩ :=
    ran
  refine ⟨fresh.1, positive.2, ?_⟩
  obtain ⟨profiles, rfl⟩ : ∃ profiles, spent = { db with profiles } := by
    unfold spendIfBound at profile
    split at profile
    · exact spendProfile_ok profile
    · exact ⟨db.profiles, (Except.ok.inj profile).symm⟩
  exact ⟨profiles, (Except.ok.inj stored).symm⟩

theorem acceptVoucherRow_ok
    (ran : acceptVoucherRow request db voucherId voucher sellerIdentityId = .ok next) :
    voucher.status = .created ∧ ∃ cap, db.capacity.get voucher.buyerIdentityId = some cap ∧
      voucher.billCreditAmount ≤ cap.availableCredits ∧
      next = (db.setCapacity voucher.buyerIdentityId
        (cap.reserve voucher.billCreditAmount)).setVoucher voucherId
          { voucher with status := .accepted } := by
  simp only [acceptVoucherRow, require_bind_eq_ok] at ran
  obtain ⟨created, -, -, ran⟩ := ran
  split at ran
  · cases ran
  · next cap there =>
      rw [require_bind_eq_ok, bind_eq_ok] at ran
      obtain ⟨available, reserved, stored, accepted⟩ := ran
      rw [(storeCapacity_eq_ok.mp stored).2] at accepted
      exact ⟨created, cap, there, available, (Except.ok.inj accepted).symm⟩

theorem acceptVoucher_ok (ran : acceptVoucher request db voucherId sellerIdentityId = .ok next) :
    ∃ voucher, db.vouchers.get voucherId = some voucher ∧
      acceptVoucherRow request db voucherId voucher sellerIdentityId = .ok next := by
  simp only [acceptVoucher, bind_eq_ok, getVoucher_eq_ok] at ran
  obtain ⟨_, -, _, -, _, -, accepted⟩ := ran
  exact accepted

theorem acceptPaymentCode_ok
    (ran : acceptPaymentCode request db voucherId sellerIdentityId = .ok next) :
    ∃ voucher, db.vouchers.get voucherId = some voucher ∧
      acceptVoucherRow request db voucherId voucher sellerIdentityId = .ok next := by
  simp only [acceptPaymentCode, bind_eq_ok, getVoucher_eq_ok] at ran
  obtain ⟨_, -, accepted⟩ := ran
  exact accepted

theorem rejectPaymentCode_ok
    (ran : rejectPaymentCode request db voucherId sellerIdentityId = .ok next) :
    ∃ voucher, db.vouchers.get voucherId = some voucher ∧ voucher.status = .created ∧
      next = db.setVoucher voucherId { voucher with status := .rejected } := by
  simp only [rejectPaymentCode, bind_eq_ok, getVoucher_eq_ok, rejectVoucherRow,
    require_eq_ok] at ran
  obtain ⟨_, -, voucher, there, _, created, _, -, rejected⟩ := ran
  exact ⟨voucher, there, created, (Except.ok.inj rejected).symm⟩

end Credits

/-! ## Settlements -/

section Settlements

variable {request : Request} {db next : Db} {taskId : TaskId} {state : SettlementState}
  {target : TaskStatus}

/-- The row that a transition stores. -/
def SettlementState.movedRow (state : SettlementState) (target : TaskStatus) (now : ℚ) :
    SettlementState :=
  (state.moveTo target now).toRow

theorem transition_ok (ran : applyTransition request db state target = .ok next) :
    canTransition state.status target = true ∧ ∃ audits,
      next = { db with
        settlements := db.settlements.set state.taskId (state.movedRow target request.now)
        audits } :=
  ⟨(applyTransition_ok ran).1, _, (applyTransition_ok ran).2⟩

theorem boundVoucher_ok {body : CreateSettlementRequest} {voucherId : VoucherId}
    {voucher : Voucher} (bound : boundVoucher db body voucherId = .ok voucher) :
    db.vouchers.get voucherId = some voucher ∧ voucher.status = .accepted ∧
      voucher.buyerIdentityId = body.clientAgentId := by
  unfold boundVoucher at bound
  split at bound
  · cases bound
  · next row there =>
      simp only [require_bind_eq_ok] at bound
      obtain ⟨accepted, buyer, -, same⟩ := bound
      obtain rfl := Except.ok.inj same
      exact ⟨there, accepted, buyer⟩

theorem createSettlement_ok {body : CreateSettlementRequest}
    (ran : createSettlement request db body = .ok next) :
    db.settlements.get body.taskId = none ∧
      (∀ voucherId, body.voucherId = some voucherId →
        ∃ voucher, boundVoucher db body voucherId = .ok voucher) ∧
      ∃ voucher audits, next = { db with
        settlements := db.settlements.set body.taskId (body.draft voucher request.now).toRow
        audits } := by
  simp only [createSettlement, bind_eq_ok, require_eq_ok] at ran
  obtain ⟨_, -, _, -, _, -, _, -, voucher, bound, _, fresh, saved, stored, audited⟩ := ran
  rw [saveSettlement_ok stored] at audited
  refine ⟨fresh, ?_, voucher, _, (Except.ok.inj audited).symm⟩
  intro voucherId named
  rw [bindVoucher, named, map_eq_ok] at bound
  exact ⟨bound.choose, bound.choose_spec.1⟩

/-- The settlement that a call only moves on, and to what status. -/
def Call.movesOn : Call → Option (TaskId × TaskStatus)
  | .markSettlementPending taskId => some (taskId, .pending)
  | .startSettlement taskId => some (taskId, .inProgress)
  | .submitSettlement taskId => some (taskId, .delivered)
  | .failSettlement taskId => some (taskId, .cancelled)
  | _ => none

theorem movesOn_ok {call : Call} {target : TaskStatus} (ran : dispatch request db call = .ok next)
    (moves : call.movesOn = some (taskId, target)) :
    ∃ row, db.settlements.get taskId = some row ∧
      applyTransition request db row.fromRow target = .ok next := by
  cases call with
  | markSettlementPending | startSettlement | failSettlement =>
      obtain ⟨rfl, rfl⟩ := Prod.mk.inj (Option.some.inj moves)
      simp only [dispatch, markSettlementPending, startSettlement, failSettlement,
        bind_eq_ok] at ran
      obtain ⟨state, opened, _, -, moved⟩ := ran
      obtain ⟨row, there, rfl⟩ := openTask_ok opened
      exact ⟨row, there, moved⟩
  | submitSettlement =>
      obtain ⟨rfl, rfl⟩ := Prod.mk.inj (Option.some.inj moves)
      simp only [dispatch, submitSettlement, bind_eq_ok] at ran
      obtain ⟨state, opened, _, -, _, -, moved⟩ := ran
      obtain ⟨row, there, rfl⟩ := openTask_ok opened
      exact ⟨row, there, moved⟩
  | _ => cases moves

theorem lockSettlement_ok {workerAgentId : IdentityId}
    (ran : lockSettlement request db taskId workerAgentId = .ok next) :
    ∃ row, db.settlements.get taskId = some row ∧
      applyTransition request db { row.fromRow with workerAgentId := some workerAgentId }
        .accepted = .ok next := by
  simp only [lockSettlement, bind_eq_ok] at ran
  obtain ⟨state, opened, _, -, _, -, _, -, _, -, moved⟩ := ran
  obtain ⟨row, there, rfl⟩ := openTask_ok opened
  exact ⟨row, there, moved⟩

end Settlements

/-! ## Disputes and resolutions -/

section Resolutions

variable {request : Request} {db next : Db} {taskId : TaskId} {state : SettlementState}
  {target : TaskStatus} {buyerIdentityId : IdentityId}
  {escrowAmount settledAmount refundedAmount : ℚ}

theorem moveReservedToDisputed_ok
    (ran : moveReservedToDisputed db buyerIdentityId escrowAmount = .ok next) :
    ∃ cap, db.capacity.get buyerIdentityId = some cap ∧
      escrowAmount ≤ cap.reservedCredits + epsilon ∧
      next = db.setCapacity buyerIdentityId (cap.freeze escrowAmount) := by
  unfold moveReservedToDisputed at ran
  split at ran
  · cases ran
  · next cap there =>
      simp only [bind_eq_ok, require_eq_ok] at ran
      obtain ⟨_, covered, stored⟩ := ran
      exact ⟨cap, there, covered, (storeCapacity_eq_ok.mp stored).2⟩

/-- The bucket that the escrow is taken from. -/
theorem takeEscrow_ok {cap taken : Capacity} (took : cap.takeEscrow escrowAmount = .ok taken) :
    (escrowAmount ≤ cap.disputedCredits + epsilon ∧
        taken = { cap with disputedCredits := cap.disputedCredits - escrowAmount }) ∨
      (cap.disputedCredits + epsilon < escrowAmount ∧
        taken = { cap with reservedCredits := cap.reservedCredits - escrowAmount }) := by
  unfold Capacity.takeEscrow at took
  split at took
  case isTrue covered => exact .inl ⟨covered, (Except.ok.inj took).symm⟩
  case isFalse uncovered =>
    split at took
    · exact .inr ⟨not_le.mp uncovered, (Except.ok.inj took).symm⟩
    · cases took

theorem applyCapacityResolution_ok
    (ran : applyCapacityResolution db buyerIdentityId escrowAmount settledAmount refundedAmount =
      .ok next) :
    ∃ capacity, ResolvedCapacity db.capacity
        ⟨buyerIdentityId, escrowAmount, settledAmount, refundedAmount⟩ capacity ∧
      next = { db with
        capacity
        resolutions := db.resolutions ++
          [⟨buyerIdentityId, escrowAmount, settledAmount, refundedAmount⟩] } := by
  unfold applyCapacityResolution at ran
  split at ran
  · next nobody => exact ⟨_, .inl ⟨nobody, rfl⟩, (Except.ok.inj ran).symm⟩
  · next cap there =>
      simp only [bind_eq_ok, require_eq_ok] at ran
      obtain ⟨_, -, _, -, taken, took, stored⟩ := ran
      exact ⟨_, .inr ⟨cap, taken, there, took, rfl⟩, (storeCapacity_eq_ok.mp stored).2⟩

theorem markVoucherUsedIfLinked_eq (db : Db) (taskId : TaskId) :
    markVoucherUsedIfLinked db taskId = { db with
      vouchers := useVoucher db.vouchers
        ((db.settlements.get taskId).bind SettlementState.voucherId) } := by
  unfold markVoucherUsedIfLinked useVoucher
  cases (db.settlements.get taskId).bind SettlementState.voucherId with
  | none => rfl
  | some voucherId =>
      cases found : db.vouchers.get voucherId with
      | none => simp only [found]
      | some voucher =>
          simp only [found]
          split <;> rfl

theorem releaseProfileIfBound_eq (db : Db) (state : SettlementState) :
    ∃ profiles, releaseProfileIfBound db state = { db with profiles } := by
  unfold releaseProfileIfBound releaseProfileCredits
  split
  · exact ⟨db.profiles, rfl⟩
  · split
    · exact ⟨db.profiles, rfl⟩
    · simp only []
      split
      · split
        · exact ⟨db.profiles, rfl⟩
        · exact ⟨_, rfl⟩
      · exact ⟨_, rfl⟩

theorem finalize_ok
    (ran : finalize request db state target settledAmount refundedAmount = .ok next) :
    canTransition state.status target = true ∧ ∃ capacity audits,
      ResolvedCapacity db.capacity
        ⟨state.clientAgentId, state.escrowAmount, settledAmount, refundedAmount⟩ capacity ∧
      next = { db with
        capacity
        vouchers := useVoucher db.vouchers state.voucherId
        settlements := db.settlements.set state.taskId (state.movedRow target request.now)
        audits
        resolutions := db.resolutions ++
          [⟨state.clientAgentId, state.escrowAmount, settledAmount, refundedAmount⟩] } := by
  simp only [finalize, bind_eq_ok] at ran
  obtain ⟨moved, transition, resolved, resolution, marked⟩ := ran
  obtain ⟨allowed, audits, rfl⟩ := transition_ok transition
  obtain ⟨capacity, taken, rfl⟩ := applyCapacityResolution_ok resolution
  refine ⟨allowed, capacity, audits, taken, ?_⟩
  rw [← Except.ok.inj marked, markVoucherUsedIfLinked_eq]
  simp [SettlementState.movedRow, SettlementState.toRow, SettlementState.moveTo]

theorem finalizeFull_ok (ran : finalizeFull request db state = .ok next) :
    canTransition state.status .settled = true ∧ ∃ capacity audits profiles,
      ResolvedCapacity db.capacity
        ⟨state.clientAgentId, state.escrowAmount, state.escrowAmount, 0⟩ capacity ∧
      next = { db with
        capacity
        profiles
        vouchers := useVoucher db.vouchers state.voucherId
        settlements := db.settlements.set state.taskId (state.movedRow .settled request.now)
        audits
        resolutions := db.resolutions ++
          [⟨state.clientAgentId, state.escrowAmount, state.escrowAmount, 0⟩] } := by
  simp only [finalizeFull, bind_eq_ok] at ran
  obtain ⟨moved, transition, resolved, resolution, marked⟩ := ran
  obtain ⟨allowed, audits, rfl⟩ := transition_ok transition
  obtain ⟨capacity, taken, rfl⟩ := applyCapacityResolution_ok resolution
  obtain ⟨profiles, released⟩ := releaseProfileIfBound_eq _ state
  rw [released, markVoucherUsedIfLinked_eq] at marked
  refine ⟨allowed, capacity, audits, profiles, taken, ?_⟩
  rw [← Except.ok.inj marked]
  simp [SettlementState.movedRow, SettlementState.toRow, SettlementState.moveTo]

theorem partialSettlement_ok {percent : ℚ}
    (ran : partialSettlement request db taskId percent = .ok next) :
    ∃ row, db.settlements.get taskId = some row ∧ 0 < percent ∧ percent ≤ 100 ∧
      finalize request db
        (row.fromRow.release (percentSplit row.escrowAmount percent).1
          (percentSplit row.escrowAmount percent).2 request.now) .settled
        (percentSplit row.escrowAmount percent).1 (percentSplit row.escrowAmount percent).2 =
          .ok next := by
  simp only [partialSettlement, bind_eq_ok, require_eq_ok] at ran
  obtain ⟨_, bounds, state, opened, _, -, _, -, _, -, ran⟩ := ran
  obtain ⟨row, there, rfl⟩ := openTask_ok opened
  exact ⟨row, there, bounds.1, bounds.2, ran⟩

theorem regretSettlement_ok {buyer : Option IdentityId}
    (ran : regretSettlement request db taskId buyer = .ok next) :
    ∃ row, db.settlements.get taskId = some row ∧
      let split := percentSplit row.escrowAmount (confirmedProgressPercent db taskId)
      finalize request db (row.fromRow.release split.1 split.2 request.now) .settled
        split.1 split.2 = .ok next := by
  simp only [regretSettlement, bind_eq_ok, require_eq_ok] at ran
  obtain ⟨state, opened, _, -, _, -, _, -, ran⟩ := ran
  obtain ⟨row, there, rfl⟩ := openTask_ok opened
  exact ⟨row, there, ran⟩

/-- A dispute is opened on a stored settlement. -/
def Disputes (request : Request) (db : Db) (taskId : TaskId) (next : Db) : Prop :=
  ∃ row moved, db.settlements.get taskId = some row ∧
    moveReservedToDisputed db row.clientAgentId row.escrowAmount = .ok moved ∧
    applyTransition request moved row.fromRow .disputed = .ok next

theorem openDispute_ok (ran : openDispute request db taskId = .ok next) :
    Disputes request db taskId next := by
  simp only [openDispute, bind_eq_ok, getSettlement_eq_ok] at ran
  obtain ⟨_, ⟨row, there, rfl⟩, _, -, moved, frozen, ran⟩ := ran
  exact ⟨row, moved, there, frozen, ran⟩

theorem buyerRejectSettlement_ok (ran : buyerRejectSettlement request db taskId = .ok next) :
    Disputes request db taskId next := by
  simp only [buyerRejectSettlement, bind_eq_ok, getSettlement_eq_ok] at ran
  obtain ⟨_, ⟨row, there, rfl⟩, _, -, _, -, moved, frozen, ran⟩ := ran
  exact ⟨row, moved, there, frozen, ran⟩

theorem hintScene_sameTerms (state : SettlementState) (sceneId : Option String) :
    state.SameTerms (state.hintScene sceneId) ∧ (state.hintScene sceneId).status = state.status := by
  unfold SettlementState.hintScene
  simp only []
  split <;> exact ⟨⟨rfl, rfl, rfl, rfl⟩, rfl⟩

theorem buyerAcceptSettlement_ok {sceneId : Option String}
    (ran : buyerAcceptSettlement request db taskId sceneId = .ok next) :
    ∃ row, db.settlements.get taskId = some row ∧ row.stage = .delivered ∧
      finalizeFull request db
        ((row.fromRow.hintScene sceneId).release (cents row.escrowAmount) 0 request.now) =
          .ok next := by
  simp only [buyerAcceptSettlement, bind_eq_ok, getSettlement_eq_ok, require_eq_ok] at ran
  obtain ⟨_, ⟨row, there, rfl⟩, _, -, _, delivered, _, -, _, -, _, -, _, -, _, -, ran⟩ := ran
  exact ⟨row, there, delivered, ran⟩

/-- The confirmation window has no column, so automatic confirmation is always refused. -/
theorem autoConfirmSettlement_refused : autoConfirmSettlement request db taskId ≠ .ok next := by
  intro ran
  simp only [autoConfirmSettlement, bind_eq_ok, getSettlement_eq_ok] at ran
  obtain ⟨_, ⟨row, -, rfl⟩, _, -, ran⟩ := ran
  cases ran

theorem autoArbitrate_ok {bundle : Option BundleVerdict}
    (ran : autoArbitrate request db taskId bundle = .ok next) :
    ∃ row arbitrated, db.settlements.get taskId = some row ∧
      applyTransition request db row.fromRow .arbitrated = .ok arbitrated ∧
      let split := adjustAutoSplitForRules
        (buildAutoArbitrationContext request db row.fromRow bundle)
        (confirmedProgressPercent db taskId) row.escrowAmount
      ∃ state, finalize request arbitrated state
          (if split.1 ≤ 1 / 10 ^ 6 then .refunded else .settled) split.1 split.2 = .ok next ∧
        row.SameTerms state ∧ state.status = .arbitrated := by
  simp only [autoArbitrate, bind_eq_ok, getSettlement_eq_ok] at ran
  obtain ⟨_, ⟨row, there, rfl⟩, _, -, arbitrated, transition, _, -, ran⟩ := ran
  exact ⟨row, arbitrated, there, transition, _, ran, ⟨rfl, rfl, rfl, rfl⟩, rfl⟩

end Resolutions

/-! ## Progress -/

section Progress

variable {request : Request} {db next : Db} {taskId : TaskId}

theorem submitProgressReceipt_ok {progress : ProgressReceipt}
    (ran : submitProgressReceipt request db progress = .ok next) :
    progress.WellFormed ∧ db.progress.get progress.progressReceiptId = none ∧
      ∃ row, db.settlements.get progress.taskId = some row ∧
        canTransition row.stage .progressSubmitted = true ∧
        next = (db.setProgress progress).setSettlement
          { row.fromRow with status := .progressSubmitted : SettlementState }.toRow := by
  simp only [submitProgressReceipt, bind_eq_ok, require_eq_ok, getTaskSettlement_eq_ok] at ran
  obtain ⟨_, wellFormed, _, -, _, fresh, _, -, _, -, _, ⟨row, there, rfl⟩, _, -, _, -, _, -, _,
    allowed, saved⟩ := ran
  exact ⟨wellFormed, fresh, row, there, allowed, saveSettlement_ok saved⟩

theorem runtimeUpdateProgress_ok {progress : ProgressReceipt} {keyIdentityId : IdentityId}
    {signature : String}
    (ran : runtimeUpdateProgress request db progress keyIdentityId signature = .ok next) :
    submitProgressReceipt { request with actor := some keyIdentityId } db
      { progress with sellerSignature := "runtime:" ++ signature } = .ok next := by
  simp only [runtimeUpdateProgress, bind_eq_ok, require_eq_ok] at ran
  obtain ⟨_, -, ran⟩ := ran
  exact ran

theorem confirmProgressReceipt_ok {progressReceiptId : ReceiptId}
    (ran : confirmProgressReceipt request db progressReceiptId = .ok next) :
    ∃ receipt, db.progress.get progressReceiptId = some receipt ∧
      (next = db ∨ receipt.confirmationStatus ≠ .confirmed ∧
        ∃ row, db.settlements.get receipt.taskId = some row ∧
        requireConfirmingBuyer request row.fromRow = .ok () ∧
        canTransition row.stage .progressConfirmed = true ∧
        next = { db with
          progress := db.progress.set progressReceiptId (receipt.confirm request.now) }.setSettlement
          { row.fromRow with status := .progressConfirmed : SettlementState }.toRow) := by
  unfold confirmProgressReceipt at ran
  split at ran
  · cases ran
  · next receipt found =>
      refine ⟨receipt, found, ?_⟩
      split at ran
      case isTrue => exact .inl (Except.ok.inj ran).symm
      case isFalse unconfirmed =>
        simp only [bind_eq_ok, require_eq_ok, getTaskSettlement_eq_ok] at ran
        obtain ⟨_, ⟨row, there, rfl⟩, _, buyer, _, allowed, saved⟩ := ran
        exact .inr ⟨unconfirmed, row, there, buyer, allowed, saveSettlement_ok saved⟩

/-- The progress table after some receipts have been confirmed. -/
def confirmAll (table : Table ReceiptId ProgressReceipt) (now : ℚ)
    (rows : List (ReceiptId × ProgressReceipt)) : Table ReceiptId ProgressReceipt :=
  rows.foldl (fun table row => table.set row.1 (row.2.confirm now)) table

theorem timeoutConfirmProgress_ok {maxPendingHours : ℚ}
    (ran : timeoutConfirmProgress request db taskId maxPendingHours = .ok next) :
    ∃ row, db.settlements.get taskId = some row ∧ requireBuyer request row.fromRow = .ok () ∧
      (next = db ∨ canTransition row.stage .progressConfirmed = true ∧
        next = { db with
          progress := confirmAll db.progress request.now
            (overdueProgress request db taskId maxPendingHours) }.setSettlement
          { row.fromRow with status := .progressConfirmed : SettlementState }.toRow) := by
  simp only [timeoutConfirmProgress, bind_eq_ok, require_eq_ok, getTaskSettlement_eq_ok] at ran
  obtain ⟨_, -, _, ⟨row, there, rfl⟩, _, buyer, ran⟩ := ran
  refine ⟨row, there, buyer, ?_⟩
  split at ran
  · exact .inl (Except.ok.inj ran).symm
  · simp only [bind_eq_ok, require_eq_ok] at ran
    obtain ⟨_, allowed, saved⟩ := ran
    exact .inr ⟨allowed, saveSettlement_ok saved⟩

end Progress

/-! ## Arbitration -/

section Arbitration

variable {request : Request} {db next : Db} {caseId : CaseId}

theorem createArbitrationCase_ok {body : CreateArbitrationCaseRequest}
    (ran : createArbitrationCase db request caseId body = .ok next) :
    db.cases.get caseId = none ∧ ∃ row saved, db.settlements.get body.taskId = some row ∧
      (saved = db ∨ row.stage = .disputed ∧
        saved = db.setSettlement (row.fromRow.movedRow .arbitrated request.now)) ∧
      next = saved.setCase caseId {
        taskId := body.taskId
        openedBy := body.openedBy
        requiredArbitrators := body.requiredArbitrators } := by
  simp only [createArbitrationCase, bind_eq_ok, require_eq_ok, getCaseSettlement_eq_ok] at ran
  obtain ⟨_, -, _, fresh, _, ⟨row, there, rfl⟩, _, -, saved, stored, opened⟩ := ran
  refine ⟨fresh.1, row, saved, there, ?_, (Except.ok.inj opened).symm⟩
  unfold arbitrateIfDisputed at stored
  split at stored
  case isTrue disputed =>
    rw [require_bind_eq_ok] at stored
    exact .inr ⟨disputed, saveSettlement_ok stored.2⟩
  case isFalse => exact .inl (Except.ok.inj stored).symm

theorem assignArbitrators_ok {count : Nat} (ran : assignArbitrators db caseId count = .ok next) :
    ∃ row assignments, db.cases.get caseId = some row ∧
      next = { db with assignments }.setCase caseId { row with status := .voting } := by
  simp only [assignArbitrators, bind_eq_ok, require_eq_ok, getCase_eq_ok] at ran
  obtain ⟨_, -, row, there, _, -, _, -, assigned⟩ := ran
  exact ⟨row, _, there, (Except.ok.inj assigned).symm⟩

theorem castVote_ok {vote : ArbitrationVote} (ran : castVote db vote = .ok next) :
    (∀ percent ∈ vote.partialPercent, 0 ≤ percent ∧ percent ≤ 100) ∧
      ∃ row, db.cases.get vote.caseId = some row ∧
        let cast := { db with votes := db.votes ++ [vote] }
        (next = cast ∨ next = cast.setCase vote.caseId { row with status := .voting } ∨
          next = cast.setCase vote.caseId { row with
            status := .decided
            decidedOutcome := some (tallyVotes (cast.votesOf vote.caseId)).1
            finalPartialPercent := (tallyVotes (cast.votesOf vote.caseId)).2 }) := by
  simp only [castVote, bind_eq_ok, require_eq_ok, getCase_eq_ok] at ran
  obtain ⟨_, bounded, row, there, _, -, _, -, _, -, _, -, _, -, ran⟩ := ran
  refine ⟨bounded, row, there, ?_⟩
  split at ran
  · exact .inr (.inr (Except.ok.inj ran).symm)
  · split at ran
    · exact .inr (.inl (Except.ok.inj ran).symm)
    · exact .inl (Except.ok.inj ran).symm

/-- The row that the execution of a decision stores. -/
def SettlementState.decidedRow (row : SettlementState) (decision : TaskStatus × ℚ × ℚ) (now : ℚ) :
    SettlementState :=
  { row.fromRow with
    releasedAmount := some decision.2.1
    refundedAmount := some decision.2.2
    releasedAt := if 0 < decision.2.1 then some now else none : SettlementState }.movedRow
      decision.1 now

/-- The settlement is stored under the task of the case if it is the task's own row. -/
theorem executeArbitrationCase_ok
    (keyed : db.settlements.Every fun taskId row => row.taskId = taskId)
    (ran : executeArbitrationCase db request caseId = .ok next) :
    ∃ case_ outcome row, db.cases.get caseId = some case_ ∧
      case_.decidedOutcome = some outcome ∧ db.settlements.get case_.taskId = some row ∧
      let decision := decisionSplit outcome case_.finalPartialPercent row.escrowAmount
      ∃ capacity, (row.stage = .disputed ∨ canTransition row.stage decision.1 = true) ∧
        ResolvedCapacity db.capacity
          ⟨row.clientAgentId, row.escrowAmount, decision.2.1, decision.2.2⟩ capacity ∧
        next = { db with
          capacity
          vouchers := useVoucher db.vouchers row.voucherId
          settlements := db.settlements.set case_.taskId (row.decidedRow decision request.now)
          resolutions := db.resolutions ++
            [⟨row.clientAgentId, row.escrowAmount, decision.2.1, decision.2.2⟩]
          cases := db.cases.set caseId { case_ with status := .executed } } := by
  simp only [executeArbitrationCase, bind_eq_ok, require_eq_ok, getCase_eq_ok] at ran
  obtain ⟨case_, found, _, -, ran⟩ := ran
  split at ran
  · cases ran
  · next outcome decided =>
      simp only [bind_eq_ok, require_eq_ok, getCaseSettlement_eq_ok] at ran
      obtain ⟨_, ⟨row, there, rfl⟩, _, -, _, allowed, saved, stored, resolved, resolution,
        executed⟩ := ran
      have same : row.taskId = case_.taskId := keyed _ _ there
      have written := saveSettlement_ok stored
      obtain ⟨capacity, taken, rfl⟩ := applyCapacityResolution_ok resolution
      replace written : saved = { db with
          settlements := db.settlements.set row.taskId (row.decidedRow
            (decisionSplit outcome case_.finalPartialPercent row.escrowAmount) request.now) } :=
        written
      subst written
      refine ⟨case_, outcome, row, found, decided, there, capacity, ?_, taken, ?_⟩
      · split at allowed
        case isTrue disputed => exact .inl disputed
        case isFalse => exact .inr allowed
      · rw [← Except.ok.inj executed, markVoucherUsedIfLinked_eq, same, Table.get_set_self]
        rfl

end Arbitration

end TrustChain.Service
