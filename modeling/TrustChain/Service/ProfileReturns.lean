import TrustChain.Service.Books
import TrustChain.Service.Frames
import TrustChain.Service.Quotas

/-!
# Profile credits in progress

Creating a voucher under a profile takes its bill from the profile's quota, and only the buyer's
acceptance of a delivery gives anything back. The credits in progress of every profile are the
bills of its vouchers under way exactly in the runs in which no voucher with a profile is
rejected, none is ended by another route than the buyer's acceptance, and each acceptance takes
the bill of the voucher that it ends.
-/

namespace TrustChain.Service

open Library

/-! ## Vouchers under way -/

/-- A settlement on the voucher is over. -/
def IsOver (settlements : Table TaskId SettlementState) (voucherId : VoucherId) : Prop :=
  ∃ entry ∈ settlements.rows, entry.2.voucherId = some voucherId ∧ entry.2.status.Terminal

instance (settlements : Table TaskId SettlementState) : DecidablePred (IsOver settlements) :=
  fun voucherId => inferInstanceAs (Decidable (∃ entry ∈ settlements.rows,
    entry.2.voucherId = some voucherId ∧ entry.2.status.Terminal))

/-- The life of a voucher has ended, with its status or with its settlement. -/
def LifeEnded (settlements : Table TaskId SettlementState) (voucherId : VoucherId)
    (voucher : Voucher) : Prop :=
  voucher.status ∈ [VoucherStatus.rejected, .expired, .cancelled] ∨ IsOver settlements voucherId

instance (settlements : Table TaskId SettlementState) (voucherId : VoucherId) (voucher : Voucher) :
    Decidable (LifeEnded settlements voucherId voucher) :=
  inferInstanceAs (Decidable (_ ∨ _))

/-- What a voucher under way bills to a profile. -/
def liveBill (settlements : Table TaskId SettlementState) (profileId : ProfileId)
    (voucherId : VoucherId) (voucher : Voucher) : ℚ :=
  if voucher.profileId = some profileId ∧ ¬LifeEnded settlements voucherId voucher then
    voucher.billCreditAmount
  else 0

namespace Db

variable (db : Db)

/-- The bills of the vouchers under way that were created with a profile. -/
def liveBills (profileId : ProfileId) : ℚ := db.vouchers.total (liveBill db.settlements profileId)

def liveBillOf (profileId : ProfileId) (voucherId : VoucherId) : ℚ :=
  (db.vouchers.get voucherId).elim 0 (liveBill db.settlements profileId voucherId)

def inProgressCredits (profileId : ProfileId) : ℚ :=
  (db.profiles.get profileId).elim 0 ProfileCapacity.inProgressCredits

/-- The credits in progress of every profile are the bills of its vouchers under way. -/
def BillsInProgress : Prop := ∀ profileId, db.inProgressCredits profileId = db.liveBills profileId

end Db

/-! ## What a request spends and takes back -/

/-- What is released of the credits in progress: what is asked for, or all there is. -/
def releasable (inProgress amount : ℚ) : ℚ :=
  if inProgress + epsilon < max 0 amount then max 0 inProgress else max 0 amount

/-- What a release takes from a profile's credits in progress. -/
def Db.releasable (db : Db) (profileId : ProfileId) (amount : ℚ) : ℚ :=
  (db.profiles.get profileId).elim 0 fun row => Service.releasable row.inProgressCredits amount

/-- What the buyer's acceptance releases: the escrow in cents, or the escrow if that is nothing. -/
def SettlementState.acceptedAmount (row : SettlementState) : ℚ :=
  if cents row.escrowAmount = 0 then row.escrowAmount else cents row.escrowAmount

namespace Call

def spends (profileId : ProfileId) : Call → ℚ
  | .createVoucher _ body => if body.profileId = some profileId then body.billCreditAmount else 0
  | _ => 0

def takesBack (db : Db) (profileId : ProfileId) : Call → ℚ
  | .buyerAcceptSettlement taskId _ => (db.settlements.get taskId).elim 0 fun row =>
      if row.profileId = some profileId then db.releasable profileId row.acceptedAmount else 0
  | _ => 0

/-- The task that a call ends. -/
def endsTask (db : Db) : Call → Option TaskId
  | .failSettlement taskId => some taskId
  | call => call.resolves db

/-- The voucher whose life a call ends. -/
def endsVoucher (db : Db) : Call → Option VoucherId
  | .rejectPaymentCode voucherId _ => some voucherId
  | call => (call.endsTask db).bind fun taskId =>
      (db.settlements.get taskId).bind SettlementState.voucherId

end Call

/-- The release of an amount takes exactly a bill: it is the bill, or more than the bill where
nothing else is in progress. -/
def Releases (inProgress amount bill : ℚ) : Prop :=
  max 0 amount = bill ∨ (inProgress = bill ∧ bill + epsilon < max 0 amount)

/-- The voucher has no profile, or its life has ended already. -/
def Db.Unbilled (db : Db) (voucherId : VoucherId) : Prop :=
  ∀ voucher ∈ db.vouchers.get voucherId,
    voucher.profileId = none ∨ LifeEnded db.settlements voucherId voucher

def Call.ReturnsBill (db : Db) : Call → Prop
  | .buyerAcceptSettlement taskId _ => ∀ row ∈ db.settlements.get taskId,
      (∀ voucherId ∈ row.voucherId, db.Unbilled voucherId ∨
        ∀ voucher ∈ db.vouchers.get voucherId, voucher.profileId = row.profileId) ∧
      ∀ profileId ∈ row.profileId, ∀ quota ∈ db.profiles.get profileId,
        Releases quota.inProgressCredits row.acceptedAmount
          (row.voucherId.elim 0 (db.liveBillOf profileId))
  | call => ∀ voucherId ∈ call.endsVoucher db, db.Unbilled voucherId

def Action.ReturnsBill (world : World) : Action → Prop
  | .request _ call => call.ReturnsBill world.db
  | .setPauses _ => True

/-! ## The tables of vouchers and settlements -/

section Tables

variable {settlements : Table TaskId SettlementState} {taskId : TaskId} {stored : SettlementState}
  {voucherId : VoucherId}

theorem isOver_iff : IsOver settlements voucherId ↔ ∃ taskId row,
    settlements.get taskId = some row ∧ row.voucherId = some voucherId ∧ row.status.Terminal := by
  constructor
  · rintro ⟨⟨taskId, row⟩, inside, names, over_⟩
    exact ⟨taskId, row, Table.mem_rows_iff.mp inside, names, over_⟩
  · rintro ⟨taskId, row, there, names, over_⟩
    exact ⟨(taskId, row), Table.mem_rows_iff.mpr there, names, over_⟩

/-- Storing a settlement where none was over can end the life of its own voucher. -/
theorem isOver_set (before : ∀ row, settlements.get taskId = some row → ¬row.status.Terminal) :
    IsOver (settlements.set taskId stored) voucherId ↔
      IsOver settlements voucherId ∨
        (stored.voucherId = some voucherId ∧ stored.status.Terminal) := by
  rw [isOver_iff, isOver_iff]
  constructor
  · rintro ⟨other, row, there, names, over_⟩
    rcases Table.get_set_eq_some.mp there with ⟨-, rfl⟩ | ⟨-, there⟩
    · exact .inr ⟨names, over_⟩
    · exact .inl ⟨other, row, there, names, over_⟩
  · rintro (⟨other, row, there, names, over_⟩ | ⟨names, over_⟩)
    · have different : other ≠ taskId := fun same => before row (same ▸ there) over_
      exact ⟨other, row, (Table.get_set_of_ne different).trans there, names, over_⟩
    · exact ⟨taskId, stored, Table.get_set_self _ _ _, names, over_⟩

/-- A voucher that a settlement names has been accepted. -/
theorem not_isOver_of_unbound {core : Core} (sound : core.Sound)
    (unbound : ∀ voucher, core.vouchers.get voucherId = some voucher → voucher.status = .created) :
    ¬IsOver core.settlements voucherId := by
  rw [isOver_iff]
  rintro ⟨taskId, row, there, names, -⟩
  obtain ⟨voucher, found, -, status⟩ := sound.linked taskId row there voucherId names
  rw [unbound voucher found] at status
  rcases status with used | ⟨accepted, -⟩
  · cases used
  · cases accepted

end Tables

/-! ## Every request -/

/-- What a request does to the vouchers and to the settlements on them. -/
inductive Turn (db : Db) (call : Call) (next : Db) : Prop
  | still : call.endsVoucher db = none → (∀ profileId, call.spends profileId = 0) →
      next.vouchers = db.vouchers → next.settlements = db.settlements → Turn db call next
  | accepted (voucherId : VoucherId) (voucher : Voucher) : call.endsVoucher db = none →
      (∀ profileId, call.spends profileId = 0) → db.vouchers.get voucherId = some voucher →
      voucher.status = .created →
      next.vouchers = db.vouchers.set voucherId { voucher with status := .accepted } →
      next.settlements = db.settlements → Turn db call next
  | created (voucherId : VoucherId) (body : CreateVoucherRequest) :
      call = .createVoucher voucherId body → db.vouchers.get voucherId = none →
      next.vouchers = db.vouchers.set voucherId body.voucher →
      next.settlements = db.settlements → Turn db call next
  | rejected (voucherId : VoucherId) (voucher : Voucher) : call.endsVoucher db = some voucherId →
      (∀ profileId, call.spends profileId = 0) → db.vouchers.get voucherId = some voucher →
      next.vouchers = db.vouchers.set voucherId { voucher with status := .rejected } →
      next.settlements = db.settlements → Turn db call next
  | stored (taskId : TaskId) (row : SettlementState) :
      (∀ profileId, call.spends profileId = 0) →
      (∀ old, db.settlements.get taskId = some old → ¬old.status.Terminal) →
      call.endsVoucher db = (if row.status.Terminal then row.voucherId else none) →
      (next.vouchers = db.vouchers ∨ next.vouchers = useVoucher db.vouchers row.voucherId) →
      next.settlements = db.settlements.set taskId row → Turn db call next

section Requests

variable {request : Request} {db next : Db} {call : Call} {taskId : TaskId}
  {row state : SettlementState} {target : TaskStatus} {profileId : ProfileId}

/-- A settlement under way is stored again, on the same voucher. -/
theorem stored_turn {stored : SettlementState}
    (settlements : next.settlements = db.settlements.set taskId stored)
    (spends : ∀ profileId, call.spends profileId = 0)
    (there : db.settlements.get taskId = some row) (live : ¬row.status.Terminal)
    (same : row.SameTerms stored)
    (ends : call.endsVoucher db = if stored.status.Terminal then row.voucherId else none)
    (vouchers : next.vouchers = db.vouchers ∨
      next.vouchers = useVoucher db.vouchers row.voucherId) : Turn db call next := by
  refine .stored taskId stored spends ?_ ?_ ?_ settlements
  · intro old was
    obtain rfl := Option.some.inj (there.symm.trans was)
    exact live
  · rwa [same.voucherId]
  · rwa [same.voucherId]

/-- A route that only moves a settlement on. -/
theorem moved_turn (wellFormed : db.WellFormed) (spends : ∀ profileId, call.spends profileId = 0)
    (ends : call.endsVoucher db = none) (there : db.settlements.get taskId = some row)
    (ran : applyTransition request db state target = .ok next) (same : row.SameTerms state)
    (stage : state.status = row.stage) (working : target.Working) :
    Turn db call next ∧ next.profiles = db.profiles := by
  obtain ⟨allowed, audits, rfl⟩ := transition_stored wellFormed there ran same stage
  have status : (state.movedRow target request.now).status = target := working.canonical
  refine ⟨stored_turn rfl spends there (not_terminal_of_canTransition allowed working.thaws)
    (same.movedRow request.now) ?_ (.inl rfl), rfl⟩
  rw [ends, if_neg]
  rw [status]
  exact working.not_terminal

theorem dispute_turn (wellFormed : db.WellFormed) (spends : ∀ profileId, call.spends profileId = 0)
    (ends : call.endsVoucher db = none) (ran : Disputes request db taskId next) :
    Turn db call next ∧ next.profiles = db.profiles := by
  obtain ⟨row, moved, there, froze, ran⟩ := ran
  obtain ⟨cap, -, -, rfl⟩ := moveReservedToDisputed_ok froze
  obtain ⟨allowed, audits, rfl⟩ := transition_ok ran
  rw [fromRow_status, wellFormed.canonical taskId row there] at allowed
  have keyed := wellFormed.keyed taskId row there
  rw [show row.fromRow.taskId = taskId from keyed]
  exact ⟨stored_turn rfl spends there (not_terminal_of_canTransition allowed (by decide))
    ⟨rfl, rfl, rfl, rfl⟩ ends (.inl rfl), rfl⟩

/-- The settlement of a progress receipt takes the status of the receipt. -/
theorem progress_turn (wellFormed : db.WellFormed)
    (spends : ∀ profileId, call.spends profileId = 0) (ends : call.endsVoucher db = none)
    (there : db.settlements.get taskId = some row) (working : target.Working)
    (allowed : canTransition row.stage target = true) (vouchers : next.vouchers = db.vouchers)
    (settlements : next.settlements = db.settlements.set row.taskId
      { row.fromRow with status := target : SettlementState }.toRow) : Turn db call next := by
  rw [wellFormed.keyed taskId row there] at settlements
  rw [wellFormed.canonical taskId row there] at allowed
  refine stored_turn settlements spends there
    (not_terminal_of_canTransition allowed working.thaws) ⟨rfl, rfl, rfl, rfl⟩ ?_ (.inl vouchers)
  have status : canonicalTaskStatus target = target := working.canonical
  rw [ends, if_neg]
  change ¬(canonicalTaskStatus target).Terminal
  rw [status]
  exact working.not_terminal

/-- A settlement is resolved, and its voucher used. -/
theorem resolved_turn {stored : SettlementState}
    (settlements : next.settlements = db.settlements.set taskId stored)
    (spends : ∀ profileId, call.spends profileId = 0)
    (there : db.settlements.get taskId = some row) (ends : call.endsVoucher db = row.voucherId)
    (same : row.SameTerms stored) (ended : stored.status.Resolved)
    (before : canTransition row.status stored.status = true ∨ row.status = .disputed)
    (vouchers : next.vouchers = useVoucher db.vouchers row.voucherId) : Turn db call next := by
  refine stored_turn settlements spends there (not_terminal_of_resolved ended before) same ?_
    (.inr vouchers)
  rw [ends, if_pos ended.terminal]

/-- A settlement is settled by its buyer. -/
theorem finalize_turn {settled refunded : ℚ} (wellFormed : db.WellFormed)
    (spends : ∀ profileId, call.spends profileId = 0)
    (there : db.settlements.get taskId = some row) (ends : call.endsVoucher db = row.voucherId)
    (ran : finalize request db state .settled settled refunded = .ok next)
    (same : row.SameTerms state) (stage : state.status = row.stage) :
    Turn db call next ∧ next.profiles = db.profiles := by
  obtain ⟨allowed, capacity, audits, -, rfl⟩ := finalize_ok ran
  rw [stage, wellFormed.canonical taskId row there] at allowed
  have keyed : state.taskId = taskId := same.taskId.trans (wellFormed.keyed taskId row there)
  rw [keyed, same.voucherId]
  exact ⟨resolved_turn rfl spends there ends (same.movedRow request.now) (.inl rfl) (.inl allowed)
    rfl, rfl⟩

/-- What a release leaves in progress. -/
theorem releaseProfileCredits_inProgress (db : Db) (profileId other : ProfileId) (amount : ℚ) :
    (releaseProfileCredits db profileId amount 0).inProgressCredits other =
      db.inProgressCredits other -
        if profileId = other then db.releasable other amount else 0 := by
  by_cases same : profileId = other
  · subst same
    rw [if_pos rfl, releaseProfileCredits, Db.releasable]
    cases there : db.profiles.get profileId with
    | none => simp
    | some row =>
        simp only [max_self, add_zero, Option.elim_some, releasable]
        split
        case isTrue exceeds =>
          split
          case isTrue none => rw [max_eq_left none, sub_zero]
          case isFalse some =>
            rw [max_eq_right (not_le.mp some).le]
            simp [Db.inProgressCredits, Db.setProfile, there]
        case isFalse => simp [Db.inProgressCredits, Db.setProfile, there]
  · rw [if_neg same, sub_zero, releaseProfileCredits]
    have elsewhere : ∀ row : ProfileCapacity,
        (db.setProfile profileId row).inProgressCredits other = db.inProgressCredits other := by
      intro row
      simp [Db.inProgressCredits, Db.setProfile, Ne.symm same]
    cases db.profiles.get profileId with
    | none => rfl
    | some row =>
        simp only []
        split_ifs <;> first | rfl | exact elsewhere _

/-- The buyer's acceptance releases the quota of the settlement's profile. -/
theorem finalizeFull_inProgress (released : state.refundedAmount = some 0)
    (ran : finalizeFull request db state = .ok next) (other : ProfileId) :
    next.inProgressCredits other = db.inProgressCredits other -
      if state.profileId = some other then db.releasable other state.releasedOrEscrow else 0 := by
  simp only [finalizeFull, bind_eq_ok] at ran
  obtain ⟨moved, transition, resolved, resolution, marked⟩ := ran
  obtain ⟨-, audits, rfl⟩ := transition_ok transition
  obtain ⟨capacity, -, rfl⟩ := applyCapacityResolution_ok resolution
  rw [← Except.ok.inj marked, markVoucherUsedIfLinked_eq, releaseProfileIfBound, released]
  cases profile : state.profileId with
  | none => exact (sub_zero _).symm
  | some profileId =>
      refine (releaseProfileCredits_inProgress _ profileId other state.releasedOrEscrow).trans ?_
      simp only [Option.some.injEq]
      rfl

theorem acceptVoucherRow_turn {voucherId : VoucherId} {voucher : Voucher} {seller : IdentityId}
    (ends : call.endsVoucher db = none) (spends : ∀ profileId, call.spends profileId = 0)
    (there : db.vouchers.get voucherId = some voucher)
    (ran : acceptVoucherRow request db voucherId voucher seller = .ok next) :
    Turn db call next ∧ next.profiles = db.profiles := by
  obtain ⟨created, cap, -, -, rfl⟩ := acceptVoucherRow_ok ran
  exact ⟨.accepted voucherId voucher ends spends there created rfl rfl, rfl⟩

/-- A settlement is settled when its buyer accepts. -/
theorem buyerAccept_turn {sceneId : Option String} (wellFormed : db.WellFormed)
    (ran : buyerAcceptSettlement request db taskId sceneId = .ok next) :
    Turn db (.buyerAcceptSettlement taskId sceneId) next ∧ ∀ profileId,
      next.inProgressCredits profileId = db.inProgressCredits profileId -
        Call.takesBack db profileId (.buyerAcceptSettlement taskId sceneId) := by
  obtain ⟨row, there, -, ran⟩ := buyerAcceptSettlement_ok ran
  obtain ⟨hinted, status⟩ := hintScene_sameTerms row.fromRow sceneId
  constructor
  · have ends : Call.endsVoucher db (.buyerAcceptSettlement taskId sceneId) = row.voucherId := by
      change (db.settlements.get taskId).bind SettlementState.voucherId = _
      rw [there, Option.bind_some]
    obtain ⟨allowed, capacity, audits, profiles, -, rfl⟩ := finalizeFull_ok ran
    have same : row.SameTerms
        ((row.fromRow.hintScene sceneId).release (cents row.escrowAmount) 0 request.now) :=
      ⟨hinted.taskId, hinted.escrowAmount, hinted.clientAgentId, hinted.voucherId⟩
    have before : canTransition row.status .settled = true := by
      rwa [← wellFormed.canonical taskId row there, ← fromRow_status, ← status]
    rw [same.taskId.trans (wellFormed.keyed taskId row there), same.voucherId]
    exact resolved_turn rfl (fun _ => rfl) there ends (same.movedRow request.now) (.inl rfl)
      (.inl before) rfl
  · intro profileId
    have profile : (row.fromRow.hintScene sceneId).profileId = row.profileId :=
      (hintScene_hands row.fromRow sceneId).1
    have amount : ((row.fromRow.hintScene sceneId).release (cents row.escrowAmount) 0
        request.now).releasedOrEscrow = row.acceptedAmount := by
      simp only [SettlementState.releasedOrEscrow, SettlementState.release,
        SettlementState.acceptedAmount, hinted.escrowAmount]
      rfl
    rw [finalizeFull_inProgress rfl ran profileId, amount]
    simp only [Call.takesBack, there, Option.elim_some, ← profile]
    rfl

/-- A request that leaves the quotas alone. -/
theorem inProgress_kept (turn : Turn db call next ∧ next.profiles = db.profiles)
    (spends : ∀ profileId, call.spends profileId = 0)
    (keeps : ∀ profileId, call.takesBack db profileId = 0) :
    Turn db call next ∧ ∀ profileId, next.inProgressCredits profileId =
      db.inProgressCredits profileId + call.spends profileId - call.takesBack db profileId := by
  refine ⟨turn.1, fun profileId => ?_⟩
  rw [spends, keeps, add_zero, sub_zero, Db.inProgressCredits, turn.2]
  rfl

theorem createVoucher_turn {voucherId : VoucherId} {body : CreateVoucherRequest}
    (ran : createVoucher request db voucherId body = .ok next) :
    Turn db (.createVoucher voucherId body) next ∧ ∀ profileId,
      next.inProgressCredits profileId = db.inProgressCredits profileId +
        Call.spends profileId (.createVoucher voucherId body) := by
  simp only [createVoucher, bind_eq_ok, require_eq_ok] at ran
  obtain ⟨_, -, _, -, _, -, _, -, _, -, _, -, spent, profile, _, -, _, -, _, fresh, stored⟩ := ran
  obtain rfl := Except.ok.inj stored
  unfold spendIfBound at profile
  cases bound : body.profileId with
  | none =>
      simp only [bound] at profile
      obtain rfl := Except.ok.inj profile
      refine ⟨.created voucherId body rfl fresh.1 rfl rfl, fun profileId => ?_⟩
      simp only [Call.spends, bound]
      exact (add_zero _).symm
  | some quota =>
      simp only [bound] at profile
      obtain ⟨row, there, rfl⟩ := spendProfileCredits_ok profile
      refine ⟨.created voucherId body rfl fresh.1 rfl rfl, fun profileId => ?_⟩
      simp only [Call.spends, bound, Option.some.injEq]
      by_cases same : quota = profileId
      · subst same
        simp [Db.inProgressCredits, Db.setVoucher, Db.setProfile, there, ProfileCapacity.spend]
      · simp [Db.inProgressCredits, Db.setVoucher, Db.setProfile, same, Ne.symm same]

/-- An allocation changes no credits in progress. -/
theorem allocate_turn {identityId : IdentityId} {allocations : List (ProfileId × ℚ)}
    (ran : allocate request db identityId allocations = .ok next) :
    Turn db (.allocate identityId allocations) next ∧
      ∀ profileId, next.inProgressCredits profileId = db.inProgressCredits profileId := by
  obtain ⟨profiles, rfl⟩ := allocate_ok ran
  obtain ⟨-, same⟩ := allocate_eq_ok ran
  refine ⟨.still rfl (fun _ => rfl) rfl rfl, fun profileId => ?_⟩
  rw [same]
  clear ran same
  induction allocations generalizing db with
  | nil => rfl
  | cons allocation rest ih =>
      rw [withAllocations_cons, ih, Db.inProgressCredits, Db.inProgressCredits, Db.withAllocation,
        Db.setProfile, Table.get_set]
      split
      case isTrue same =>
        subst same
        cases db.profiles.get allocation.1 <;> rfl
      case isFalse => rfl

/-- Every successful request, with what it does to the vouchers, and to the quotas. -/
theorem dispatch_turn (wellFormed : db.WellFormed) (ran : dispatch request db call = .ok next) :
    Turn db call next ∧ ∀ profileId, next.inProgressCredits profileId =
      db.inProgressCredits profileId + call.spends profileId - call.takesBack db profileId := by
  have none : ∀ profileId : ProfileId, (0 : ℚ) = 0 := fun _ => rfl
  have same {row : SettlementState} : row.SameTerms row.fromRow := ⟨rfl, rfl, rfl, rfl⟩
  have confirms : TaskStatus.progressConfirmed.Working := by decide
  have submits : TaskStatus.progressSubmitted.Working := by decide
  have own {task : TaskId} {row : SettlementState} (there : db.settlements.get task = some row) :
      (db.settlements.get task).bind SettlementState.voucherId = row.voucherId := by
    rw [there, Option.bind_some]
  cases call with
  | lockUsdc identityId amount =>
      obtain ⟨-, rfl⟩ := lockUsdc_ok ran
      exact inProgress_kept ⟨.still rfl none rfl rfl, rfl⟩ none none
  | releaseUnused identityId amount =>
      obtain ⟨cap, -, -, -, rfl⟩ := releaseUnused_ok ran
      exact inProgress_kept ⟨.still rfl none rfl rfl, rfl⟩ none none
  | allocate identityId allocations =>
      obtain ⟨turn, quotas⟩ := allocate_turn ran
      refine ⟨turn, fun profileId => (quotas profileId).trans ?_⟩
      simp [Call.spends, Call.takesBack]
  | createVoucher voucherId body =>
      obtain ⟨turn, quotas⟩ := createVoucher_turn ran
      exact ⟨turn, fun profileId => (quotas profileId).trans (sub_zero _).symm⟩
  | acceptVoucher voucherId seller =>
      obtain ⟨voucher, there, accepted⟩ := acceptVoucher_ok ran
      exact inProgress_kept (acceptVoucherRow_turn rfl none there accepted) none none
  | acceptPaymentCode voucherId seller =>
      obtain ⟨voucher, there, accepted⟩ := acceptPaymentCode_ok ran
      exact inProgress_kept (acceptVoucherRow_turn rfl none there accepted) none none
  | rejectPaymentCode voucherId seller =>
      obtain ⟨voucher, there, -, rfl⟩ := rejectPaymentCode_ok ran
      exact inProgress_kept ⟨.rejected voucherId voucher rfl none there rfl rfl, rfl⟩ none none
  | createSettlement body =>
      obtain ⟨fresh, -, voucher, audits, rfl⟩ := createSettlement_ok ran
      refine inProgress_kept ⟨.stored body.taskId _ none ?_ ?_ (.inl rfl) rfl, rfl⟩ none none
      · exact fun old was => nomatch fresh.symm.trans was
      · exact (if_neg (show ¬TaskStatus.draft.Terminal by decide)).symm
  | markSettlementPending | startSettlement | submitSettlement =>
      obtain ⟨row, there, moved⟩ := movesOn_ok ran rfl
      exact inProgress_kept (moved_turn wellFormed none rfl there moved same rfl (by decide))
        none none
  | lockSettlement task worker =>
      obtain ⟨row, there, moved⟩ := lockSettlement_ok ran
      exact inProgress_kept
        (moved_turn wellFormed none rfl there moved ⟨rfl, rfl, rfl, rfl⟩ rfl (by decide)) none none
  | failSettlement task =>
      obtain ⟨row, there, moved⟩ := movesOn_ok ran rfl
      obtain ⟨allowed, audits, rfl⟩ := transition_stored wellFormed there moved same rfl
      refine inProgress_kept ⟨stored_turn rfl none there
        (not_terminal_of_canTransition allowed (by decide)) (same.movedRow _) ?_ (.inl rfl), rfl⟩
        none none
      exact (own there).trans (if_pos (.inr (.inr rfl))).symm
  | partialSettlement task percent =>
      obtain ⟨row, there, -, -, ran⟩ := partialSettlement_ok ran
      exact inProgress_kept (finalize_turn wellFormed none there (own there) ran
        ⟨rfl, rfl, rfl, rfl⟩ rfl) none none
  | regretSettlement task buyer =>
      obtain ⟨row, there, ran⟩ := regretSettlement_ok ran
      exact inProgress_kept (finalize_turn wellFormed none there (own there) ran
        ⟨rfl, rfl, rfl, rfl⟩ rfl) none none
  | openDispute task =>
      exact inProgress_kept (dispute_turn wellFormed none rfl (openDispute_ok ran)) none none
  | buyerAcceptSettlement task sceneId =>
      obtain ⟨turn, quotas⟩ := buyerAccept_turn wellFormed ran
      refine ⟨turn, fun profileId => (quotas profileId).trans ?_⟩
      rw [Call.spends, add_zero]
      exact nofun
  | autoConfirmSettlement task => exact absurd ran autoConfirmSettlement_refused
  | buyerRejectSettlement task =>
      exact inProgress_kept (dispute_turn wellFormed none rfl (buyerRejectSettlement_ok ran))
        none none
  | autoArbitrate task bundle =>
      obtain ⟨row, arbitrated, there, moved, state, ran, terms, -⟩ := autoArbitrate_ok ran
      obtain ⟨allowed, audits, rfl⟩ := transition_stored wellFormed there moved same rfl
      obtain ⟨-, capacity, audits, -, rfl⟩ := finalize_ok ran
      have disputed : row.status = .disputed :=
        (wellFormed.canonical task row there).symm.trans (canTransition_arbitrated allowed)
      have keyed : state.taskId = task := terms.taskId.trans (wellFormed.keyed task row there)
      rw [keyed, terms.voucherId, Table.set_set]
      refine inProgress_kept ⟨resolved_turn rfl none there (own there) (terms.movedRow _) ?_
        (.inr disputed) rfl, rfl⟩ none none
      rcases autoDecision_over _ with settled | refunded
      · exact .inl (congrArg canonicalTaskStatus settled)
      · exact .inr (congrArg canonicalTaskStatus refunded)
  | submitProgressReceipt progress =>
      obtain ⟨-, -, row, there, allowed, rfl⟩ := submitProgressReceipt_ok ran
      exact inProgress_kept ⟨progress_turn wellFormed none rfl there submits allowed rfl rfl, rfl⟩
        none none
  | runtimeUpdateProgress progress keyIdentityId signature =>
      obtain ⟨-, -, row, there, allowed, rfl⟩ :=
        submitProgressReceipt_ok (runtimeUpdateProgress_ok ran)
      exact inProgress_kept ⟨progress_turn wellFormed none rfl there submits allowed rfl rfl, rfl⟩
        none none
  | confirmProgressReceipt receiptId =>
      obtain ⟨receipt, -, rfl | ⟨-, row, there, -, allowed, rfl⟩⟩ := confirmProgressReceipt_ok ran
      · exact inProgress_kept ⟨.still rfl none rfl rfl, rfl⟩ none none
      · exact inProgress_kept
          ⟨progress_turn wellFormed none rfl there confirms allowed rfl rfl, rfl⟩ none none
  | timeoutConfirmProgress task hours =>
      obtain ⟨row, there, -, rfl | ⟨allowed, rfl⟩⟩ := timeoutConfirmProgress_ok ran
      · exact inProgress_kept ⟨.still rfl none rfl rfl, rfl⟩ none none
      · exact inProgress_kept
          ⟨progress_turn wellFormed none rfl there confirms allowed rfl rfl, rfl⟩ none none
  | createArbitrationCase caseId body =>
      obtain ⟨-, row, saved, there, rfl | ⟨disputed, rfl⟩, rfl⟩ := createArbitrationCase_ok ran
      · exact inProgress_kept ⟨.still rfl none rfl rfl, rfl⟩ none none
      · have keyed : (row.fromRow.movedRow .arbitrated request.now).taskId = body.taskId :=
          wellFormed.keyed body.taskId row there
        rw [wellFormed.canonical body.taskId row there] at disputed
        refine inProgress_kept ⟨stored_turn (congrArg (fun key => db.settlements.set key _) keyed)
          none there (by rw [disputed]; decide) (same.movedRow _) ?_ (.inl rfl), rfl⟩ none none
        exact (if_neg (show ¬TaskStatus.arbitrated.Terminal by decide)).symm
  | assignArbitrators caseId count =>
      obtain ⟨case_, assignments, -, rfl⟩ := assignArbitrators_ok ran
      exact inProgress_kept ⟨.still rfl none rfl rfl, rfl⟩ none none
  | castVote vote =>
      obtain ⟨-, case_, -, rfl | rfl | rfl⟩ := castVote_ok ran <;>
        exact inProgress_kept ⟨.still rfl none rfl rfl, rfl⟩ none none
  | executeArbitrationCase caseId =>
      obtain ⟨case_, outcome, row, found, -, there, capacity, before, -, rfl⟩ :=
        executeArbitrationCase_ok wellFormed.keyed ran
      rw [wellFormed.canonical case_.taskId row there] at before
      have ended := decisionSplit_over outcome case_.finalPartialPercent row.escrowAmount
      have ends : Call.endsVoucher db (.executeArbitrationCase caseId) = row.voucherId := by
        simp only [Call.endsVoucher, Call.endsTask, Call.resolves, found, Option.map_some,
          Option.bind_some, there]
      refine inProgress_kept ⟨resolved_turn rfl none there ends ⟨rfl, rfl, rfl, rfl⟩ ?_ ?_ rfl, rfl⟩
        none none
      · rwa [decidedRow_status]
      · rw [decidedRow_status]
        exact before.symm
  | joinArbitrationPool | storeContract | storeReceipt | storeRoleProfile =>
      obtain rfl := Except.ok.inj ran
      exact inProgress_kept ⟨.still rfl none rfl rfl, rfl⟩ none none

end Requests

/-! ## The bills of the vouchers under way -/

section Bills

variable {db next : Db} {call : Call} {profileId : ProfileId} {voucherId : VoucherId}
  {voucher : Voucher} {settlements : Table TaskId SettlementState}

theorem liveBill_congr {other : Table TaskId SettlementState}
    (same : IsOver settlements voucherId ↔ IsOver other voucherId) :
    liveBill settlements profileId voucherId voucher =
      liveBill other profileId voucherId voucher := by
  have ended : LifeEnded settlements voucherId voucher ↔ LifeEnded other voucherId voucher :=
    or_congr_right same
  simp only [liveBill, ended]

/-- A voucher counts the same when it has been accepted and when it has been used. -/
theorem liveBill_status {status : VoucherStatus} (live : voucher.status = .created ∨
      voucher.status = .accepted) (still : status = .accepted ∨ status = .used) :
    liveBill settlements profileId voucherId { voucher with status } =
      liveBill settlements profileId voucherId voucher := by
  have before : voucher.status ∉ [VoucherStatus.rejected, .expired, .cancelled] := by
    rcases live with is | is <;> rw [is] <;> decide
  have after : status ∉ [VoucherStatus.rejected, .expired, .cancelled] := by
    rcases still with is | is <;> rw [is] <;> decide
  simp only [liveBill, LifeEnded, before, after]

theorem liveBill_of_ended (ended : LifeEnded settlements voucherId voucher) :
    liveBill settlements profileId voucherId voucher = 0 :=
  if_neg fun live => live.2 ended

/-- Using a voucher changes no bill. -/
theorem total_useVoucher (vouchers : Table VoucherId Voucher) (named : Option VoucherId) :
    (useVoucher vouchers named).total (liveBill settlements profileId) =
      vouchers.total (liveBill settlements profileId) := by
  unfold useVoucher
  cases named with
  | none => rfl
  | some voucherId =>
      cases there : vouchers.get voucherId with
      | none => simp only [there]
      | some voucher =>
          simp only [there]
          split
          case isTrue accepted =>
            apply Table.total_set_same
            rw [there, Option.elim_some]
            exact liveBill_status (.inr accepted) (.inr rfl)
          case isFalse => rfl

/-- Where only the settlement of one voucher ends, only its bill goes. -/
theorem total_liveBill_ended {vouchers : Table VoucherId Voucher}
    {after : Table TaskId SettlementState} {ended : Option VoucherId}
    (over_ : ∀ voucherId,
      IsOver after voucherId ↔ IsOver settlements voucherId ∨ ended = some voucherId) :
    vouchers.total (liveBill after profileId) + ended.elim 0 (fun voucherId =>
        (vouchers.get voucherId).elim 0 (liveBill settlements profileId voucherId)) =
      vouchers.total (liveBill settlements profileId) := by
  cases ended with
  | none =>
      refine (add_zero _).trans (Table.total_congr fun voucherId voucher _ => ?_)
      exact liveBill_congr ((over_ voucherId).trans (or_iff_left (by simp)))
  | some ended =>
      have exchanged := Table.total_exchange vouchers ended
        (liveBill after profileId) (liveBill settlements profileId)
        fun voucherId voucher different => by
          refine liveBill_congr ((over_ voucherId).trans ?_)
          rw [Option.some.injEq]
          exact or_iff_left (Ne.symm different)
      have nothing : (vouchers.get ended).elim 0 (liveBill after profileId ended) = 0 := by
        cases vouchers.get ended with
        | none => rfl
        | some voucher => exact liveBill_of_ended (.inr ((over_ ended).mpr (.inr rfl)))
      rw [nothing, add_zero] at exchanged
      exact exchanged

/-- A request takes the bill of the voucher whose life it ends, and adds that of a new one. -/
theorem Turn.liveBills (turn : Turn db call next) (sound : db.core.Sound) :
    next.liveBills profileId + (call.endsVoucher db).elim 0 (db.liveBillOf profileId) =
      db.liveBills profileId + call.spends profileId := by
  cases turn with
  | still ends spends vouchers settlements =>
      rw [ends, spends, Db.liveBills, vouchers, settlements]
      rfl
  | accepted voucherId voucher ends spends there created vouchers settlements =>
      rw [ends, spends, Db.liveBills, vouchers, settlements]
      refine congrArg (· + 0) (Table.total_set_same ?_)
      rw [there, Option.elim_some]
      exact liveBill_status (.inl created) (.inl rfl)
  | created voucherId body is fresh vouchers settlements =>
      have unbound : ¬IsOver db.settlements voucherId :=
        not_isOver_of_unbound sound fun voucher there => nomatch fresh.symm.trans there
      have live : ¬LifeEnded db.settlements voucherId body.voucher := by
        rintro (ended | ended)
        · exact absurd ended (by simp [CreateVoucherRequest.voucher])
        · exact unbound ended
      have exchanged := Table.total_set db.vouchers voucherId body.voucher
        (liveBill db.settlements profileId)
      rw [fresh] at exchanged
      rw [is, Db.liveBills, vouchers, settlements]
      refine Eq.trans exchanged (congrArg (db.liveBills profileId + ·) ?_)
      simp only [liveBill, live, not_false_eq_true, and_true]
      rfl
  | rejected voucherId voucher ends spends there vouchers settlements =>
      have exchanged := Table.total_set db.vouchers voucherId { voucher with status := .rejected }
        (liveBill db.settlements profileId)
      rw [ends, spends, Db.liveBills, vouchers, settlements]
      refine Eq.trans exchanged (congrArg (db.liveBills profileId + ·) ?_)
      exact liveBill_of_ended (.inl (by simp))
  | stored taskId row spends before ends vouchers settlements =>
      have counted : next.liveBills profileId =
          db.vouchers.total (liveBill next.settlements profileId) := by
        rcases vouchers with same | used
        · rw [Db.liveBills, same]
        · rw [Db.liveBills, used, total_useVoucher]
      rw [counted, spends, add_zero]
      apply total_liveBill_ended
      intro voucherId
      rw [settlements, isOver_set before, ends]
      refine or_congr_right ?_
      split
      case isTrue terminal => exact and_iff_left terminal
      case isFalse live => exact iff_of_false (fun both => live both.2) (by simp)

/-! ## Returning a bill -/

theorem liveBillOf_of_get (there : db.vouchers.get voucherId = some voucher) :
    db.liveBillOf profileId voucherId = liveBill db.settlements profileId voucherId voucher := by
  rw [Db.liveBillOf, there, Option.elim_some]

theorem liveBill_nonneg (sound : db.core.Sound)
    (there : db.vouchers.get voucherId = some voucher) :
    0 ≤ liveBill db.settlements profileId voucherId voucher := by
  have positive : 0 < voucher.billCreditAmount := sound.billed voucherId voucher there
  unfold liveBill
  split
  · exact positive.le
  · exact le_rfl

theorem liveBillOf_nonneg (sound : db.core.Sound) : 0 ≤ db.liveBillOf profileId voucherId := by
  rw [Db.liveBillOf]
  cases there : db.vouchers.get voucherId with
  | none => exact le_rfl
  | some voucher => exact liveBill_nonneg sound there

theorem liveBillOf_le (sound : db.core.Sound) (balanced : db.BillsInProgress) :
    db.liveBillOf profileId voucherId ≤ db.inProgressCredits profileId := by
  rw [balanced profileId, Db.liveBills, Db.liveBillOf]
  have nonneg : ∀ voucherId voucher, db.vouchers.get voucherId = some voucher →
      0 ≤ liveBill db.settlements profileId voucherId voucher :=
    fun _ _ there => liveBill_nonneg sound there
  cases there : db.vouchers.get voucherId with
  | none => exact Table.total_nonneg nonneg
  | some voucher => exact Table.le_total nonneg there

/-- A voucher bills nothing to any profile exactly if it has none or is over. -/
theorem unbilled_iff (sound : db.core.Sound) :
    db.Unbilled voucherId ↔ ∀ profileId, db.liveBillOf profileId voucherId = 0 := by
  cases there : db.vouchers.get voucherId with
  | none => simp [Db.Unbilled, Db.liveBillOf, there]
  | some voucher =>
      have positive : 0 < voucher.billCreditAmount := sound.billed voucherId voucher there
      simp only [Db.Unbilled, there, Option.mem_def, Option.some.injEq, forall_eq']
      simp only [liveBillOf_of_get there]
      constructor
      · rintro (unbound | ended) profileId
        · rw [liveBill, unbound, if_neg]
          rintro ⟨bound, -⟩
          cases bound
        · exact liveBill_of_ended ended
      · intro nothing
        cases bound : voucher.profileId with
        | none => exact .inl rfl
        | some profileId =>
            refine .inr (not_not.mp fun live => positive.ne' ?_)
            rw [← nothing profileId, liveBill, if_pos ⟨bound, live⟩]

/-- A release takes a bill exactly if it is asked for the bill, or for more than all there is. -/
theorem releasable_eq_iff {inProgress amount bill : ℚ} (nonneg : 0 ≤ bill)
    (within : bill ≤ inProgress) :
    releasable inProgress amount = bill ↔ Releases inProgress amount bill := by
  have slack := epsilon_nonneg
  unfold releasable Releases
  split
  case isTrue exceeds =>
    rw [max_eq_right (nonneg.trans within)]
    constructor
    · rintro rfl
      exact .inr ⟨rfl, exceeds⟩
    · rintro (rfl | ⟨rfl, -⟩)
      · linarith
      · rfl
  case isFalse fits =>
    refine (or_iff_left ?_).symm
    rintro ⟨rfl, exceeds⟩
    exact fits exceeds

/-- The quota of a profile gives back a bill exactly if the release takes it. -/
theorem quota_releases_iff {amount bill : ℚ} (nonneg : 0 ≤ bill)
    (within : bill ≤ db.inProgressCredits profileId) :
    (∀ quota, db.profiles.get profileId = some quota →
        Releases quota.inProgressCredits amount bill) ↔
      db.releasable profileId amount = bill := by
  rw [Db.releasable]
  rw [Db.inProgressCredits] at within
  cases there : db.profiles.get profileId with
  | none =>
      rw [there] at within
      refine iff_of_true (fun quota absent => ?_) (le_antisymm nonneg within)
      cases absent
  | some quota =>
      rw [there, Option.elim_some] at within
      simp only [Option.some.injEq, forall_eq', Option.elim_some]
      exact (releasable_eq_iff nonneg within).symm

/-- The bill of a settlement is among the bills of the vouchers under way. -/
theorem settlementBill_bounds (sound : db.core.Sound) (balanced : db.BillsInProgress)
    (voucherId : Option VoucherId) :
    0 ≤ voucherId.elim 0 (db.liveBillOf profileId) ∧
      voucherId.elim 0 (db.liveBillOf profileId) ≤ db.inProgressCredits profileId := by
  cases voucherId with
  | none =>
      refine ⟨le_rfl, ?_⟩
      rw [balanced profileId]
      exact Table.total_nonneg fun voucherId voucher there => liveBill_nonneg sound there
  | some voucherId => exact ⟨liveBillOf_nonneg sound, liveBillOf_le sound balanced⟩

/-- A voucher bills to its own profile. -/
theorem profileId_of_liveBillOf_ne_zero (there : db.vouchers.get voucherId = some voucher)
    (billed : db.liveBillOf profileId voucherId ≠ 0) : voucher.profileId = some profileId := by
  rw [liveBillOf_of_get there, liveBill] at billed
  exact (ite_ne_right_iff.mp billed).1.1

/-- The buyer's acceptance takes back the bill that it ends. -/
theorem buyerAccept_returns_iff {taskId : TaskId} {sceneId : Option String} (sound : db.core.Sound)
    (balanced : db.BillsInProgress) :
    Call.ReturnsBill db (.buyerAcceptSettlement taskId sceneId) ↔ ∀ profileId,
      Call.takesBack db profileId (.buyerAcceptSettlement taskId sceneId) =
        (Call.endsVoucher db (.buyerAcceptSettlement taskId sceneId)).elim 0
          (db.liveBillOf profileId) := by
  simp only [Call.ReturnsBill, Call.takesBack, Call.endsVoucher, Call.endsTask, Call.resolves,
    Option.bind_some]
  cases db.settlements.get taskId with
  | none => simp
  | some row =>
      simp only [Option.mem_def, Option.some.injEq, forall_eq', Option.elim_some, Option.bind_some]
      have quotas (profileId : ProfileId) : (∀ quota, db.profiles.get profileId = some quota →
            Releases quota.inProgressCredits row.acceptedAmount
              (row.voucherId.elim 0 (db.liveBillOf profileId))) ↔
          db.releasable profileId row.acceptedAmount =
            row.voucherId.elim 0 (db.liveBillOf profileId) :=
        let bounds := settlementBill_bounds sound balanced row.voucherId
        quota_releases_iff bounds.1 bounds.2
      constructor
      · rintro ⟨owned, released⟩ profileId
        split
        case isTrue own => exact (quotas profileId).mp (released profileId own)
        case isFalse foreign =>
          cases named : row.voucherId with
          | none => rfl
          | some voucherId =>
              rcases owned voucherId named with unbilled | same
              · exact ((unbilled_iff sound).mp unbilled profileId).symm
              · by_contra unreturned
                have billed : db.liveBillOf profileId voucherId ≠ 0 := Ne.symm unreturned
                refine foreign ?_
                cases there : db.vouchers.get voucherId with
                | none =>
                    rw [Db.liveBillOf, there] at billed
                    exact absurd rfl billed
                | some voucher =>
                    exact (same voucher there).symm.trans
                      (profileId_of_liveBillOf_ne_zero there billed)
      · intro returned
        refine ⟨fun voucherId named => ?_, fun profileId own => ?_⟩
        · rw [or_iff_not_imp_left, unbilled_iff sound]
          intro billed voucher there
          obtain ⟨profileId, some_⟩ := not_forall.mp billed
          have taken := returned profileId
          rw [named, Option.elim_some] at taken
          rw [profileId_of_liveBillOf_ne_zero there some_]
          exact ((ite_ne_right_iff.mp (taken ▸ some_)).1).symm
        · have taken := returned profileId
          rw [if_pos own] at taken
          exact (quotas profileId).mpr taken

/-- A request takes back the bill that it ends exactly if the condition holds. -/
theorem returnsBill_iff (sound : db.core.Sound) (balanced : db.BillsInProgress) :
    call.ReturnsBill db ↔ ∀ profileId, call.takesBack db profileId =
      (call.endsVoucher db).elim 0 (db.liveBillOf profileId) := by
  have silent (keeps : ∀ profileId, call.takesBack db profileId = 0) :
      (∀ voucherId ∈ call.endsVoucher db, db.Unbilled voucherId) ↔
        ∀ profileId, call.takesBack db profileId =
          (call.endsVoucher db).elim 0 (db.liveBillOf profileId) := by
    simp only [keeps]
    cases call.endsVoucher db with
    | none => simp
    | some voucherId =>
        simp only [Option.mem_def, Option.some.injEq, forall_eq', Option.elim_some,
          unbilled_iff sound, eq_comm]
  cases call with
  | buyerAcceptSettlement taskId sceneId => exact buyerAccept_returns_iff sound balanced
  | _ => exact silent fun _ => rfl

end Bills

/-! ## Every run -/

section Runs

variable {config : Config} {world next start finish : World} {action : Action}
  {actions : List Action}

theorem returnsBill_step_iff (reachable : (system config).Reachable world)
    (balanced : world.db.BillsInProgress) (step : (system config).Step world action next) :
    action.ReturnsBill world ↔ next.db.BillsInProgress := by
  have sound := reachable_sound reachable
  cases action with
  | setPauses pauses =>
      obtain rfl := Option.some.inj step
      exact iff_of_true trivial balanced
  | request request call =>
      obtain ⟨db, ran, rfl⟩ := step_request.mp step
      obtain ⟨turn, quotas⟩ := dispatch_turn (reachable_wellFormed reachable) ran
      refine (returnsBill_iff sound balanced).trans (forall_congr' fun profileId => ?_)
      have bills : db.liveBills profileId +
          (call.endsVoucher world.db).elim 0 (world.db.liveBillOf profileId) =
            world.db.liveBills profileId + call.spends profileId := turn.liveBills sound
      have before := balanced profileId
      rw [quotas profileId, before]
      constructor <;> intro equal <;> linarith

/-- The credits in progress of every profile are the bills of its vouchers under way exactly
in the runs in which every request takes back the bill of the voucher that it ends. -/
theorem profile_credits_returned (initial : (system config).Init start)
    (run : (system config).Run start actions finish) :
    ((system config).restrict fun world action => action.ReturnsBill world).Run
        start actions finish ↔
      ¬(system config).Visits start actions finish fun world => ¬world.db.BillsInProgress := by
  refine TransitionSystem.Visits.restrict_iff_not (fun _ _ _ _ => step_unique) ?_ (.init initial)
    ?_ run
  · intro world action next reachable balanced step
    rw [not_not] at balanced ⊢
    exact returnsBill_step_iff reachable balanced step
  · have empty : start.db = {} := initial
    rw [not_not, empty]
    exact fun profileId => rfl

end Runs

/-! ## Scenes -/

instance (inProgress amount bill : ℚ) : Decidable (Releases inProgress amount bill) :=
  inferInstanceAs (Decidable (_ ∨ _))

instance (db : Db) : DecidablePred db.Unbilled := fun voucherId => by
  unfold Db.Unbilled
  infer_instance

instance (db : Db) : DecidablePred (Call.ReturnsBill db) := fun call => by
  unfold Call.ReturnsBill
  split <;> infer_instance

instance (world : World) : DecidablePred (Action.ReturnsBill world)
  | .request _ call => inferInstanceAs (Decidable (call.ReturnsBill world.db))
  | .setPauses _ => inferInstanceAs (Decidable True)

namespace Demo

/-- A voucher over ten under a profile with a quota of fifty. -/
def profiled : List Action :=
  [call (.storeRoleProfile "p" buyer), call (.lockUsdc buyer 100),
    .request { actor := some buyer } (.allocate buyer [("p", 50)]),
    call (.createVoucher "v" {
      buyerIdentityId := buyer, sellerIdentityId := seller, amount := 10
      billCreditAmount := 10, expiryTime := 1, nonce := "v", profileId := some "p" })]

/-- The work on the voucher is delivered. -/
def delivered : List Action :=
  call (.acceptVoucher "v" seller) :: hire "t" (some "v") 10 ++
    [call (.submitSettlement "t"), call (.storeReceipt "t" .success)]

def buyerAccepted : Scene (performIf (fun world action => action.ReturnsBill world) {}) {} where
  actions := profiled ++ delivered ++ [call (.buyerAcceptSettlement "t" none)]
  possible := by decide +kernel

def sellerRejected : Scene (perform {}) {} where
  actions := profiled ++ [call (.rejectPaymentCode "v" seller)]
  possible := by decide +kernel

def partlyAccepted : Scene (perform {}) {} where
  actions := profiled ++ delivered ++ [call (.partialSettlement "t" 30)]
  possible := by decide +kernel

end Demo

theorem profile_credits_returned_buyerAccepted :
    ¬(system {}).Visits {} Demo.buyerAccepted.actions Demo.buyerAccepted.world
        (fun world => ¬world.db.BillsInProgress) ∧
      Demo.buyerAccepted.world.db.inProgressCredits "p" = 0 := by
  have run := scene_run_restricted Demo.buyerAccepted
  exact ⟨(profile_credits_returned (init_empty {}) run.of_restrict).mp run, by decide +kernel⟩

/-- The credits of a rejected voucher, and of one that is settled in part, stay in progress. -/
theorem not_profile_credits_returned :
    (system {}).Init {} ∧
      ((system {}).Run {} Demo.sellerRejected.actions Demo.sellerRejected.world ∧
        Demo.sellerRejected.world.db.inProgressCredits "p" = 10 ∧
        Demo.sellerRejected.world.db.liveBills "p" = 0) ∧
      (system {}).Run {} Demo.partlyAccepted.actions Demo.partlyAccepted.world ∧
        Demo.partlyAccepted.world.db.inProgressCredits "p" = 10 ∧
        Demo.partlyAccepted.world.db.liveBills "p" = 0 := by
  refine ⟨init_empty {}, ⟨scene_run Demo.sellerRejected, ?_, ?_⟩, scene_run Demo.partlyAccepted,
    ?_, ?_⟩
  all_goals decide +kernel

end TrustChain.Service
