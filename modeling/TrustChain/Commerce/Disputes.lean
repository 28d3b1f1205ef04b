import TrustChain.Commerce.System

/-!
# Disputes

An open dispute should hold the money of its order: nothing but its resolution should settle or
refund the order, and the fulfilment and the bill should say so. They do as long as an order has
one dispute at a time, and what overwrites the fulfilment or the bill without asking for
disputes stays away from disputed and finished orders.
-/

namespace TrustChain.Commerce

open Library Function

/-- The end states of an order, in which no dispute counts. -/
def ended : List OrderStatus := [.settled, .refunded]

/-- `_IN_PROGRESS_STATUSES`. -/
def inProgress : List OrderStatus := [.locked, .executed, .evidenceSubmitted, .verified]

/-- What a bill says about the money. -/
inductive BillLabel where
  | refunded | settled | disputed | locked
deriving DecidableEq

def Bill.label (bill : Bill) : Option BillLabel :=
  if bill.status = "refunded" then some .refunded
  else if bill.status = "settled" then some .settled
  else if bill.status = "disputed" then some .disputed
  else if bill.status = "locked" then some .locked
  else none

/-- What the bill of an order should say. -/
def dueLabel (status : OrderStatus) (disputed : Bool) : Option BillLabel :=
  if status = .refunded then some .refunded
  else if status = .settled then some .settled
  else if disputed then some .disputed
  else if status ∈ inProgress then some .locked
  else none

/-- The fulfilment is disputed exactly while the order is, and the bill says what it should. -/
structure Fits (order : MiniAppOrder) (bill : Option Bill) (disputed : Bool) : Prop where
  fulfillment : order.fulfillmentStatus = .disputed ↔ disputed = true ∧ order.status ∉ ended
  billed : ∀ entry ∈ bill, entry.label = dueLabel order.status disputed

namespace World

variable (world : World) (orderId : OrderId)

/-- Some dispute of the order is open. -/
def disputed : Bool := !(world.openDisputes orderId).isEmpty

def hasBill : Bool := (world.getBillByOrder orderId).isSome

/-- Every order fits its bill and its disputes. -/
def Consistent : Prop := ∀ orderId order, world.orders orderId = some order →
  Fits order (world.getBillByOrder orderId) (world.disputed orderId)

end World

/-- A request that makes `after` of an order settles or refunds it while some dispute of the order
is open that the request does not resolve. -/
def OverridesFor (world : World) (orderId : OrderId) (order after : MiniAppOrder)
    (action : Action) : Prop :=
  ∃ disputeId ∈ world.openDisputes orderId, after.status ∈ ended ∧ after.status ≠ order.status ∧
    ∀ now arbitrator resolution, action ≠ .resolveDispute now arbitrator disputeId resolution

/-- A request settles or refunds some order with another open dispute. -/
def Overrides (world : World) (action : Action) (next : World) : Prop :=
  ∃ orderId order after, world.orders orderId = some order ∧ next.orders orderId = some after ∧
    OverridesFor world orderId order after action

/-- Whether `settlement_lock` gets so far as to lock the order. -/
def locks (now : Int) (policy : Dict) (order : MiniAppOrder) : Bool :=
  (if order.status = .signed then (order.applyPolicy now policy).1 else order).status = .policyChecked

/-- The requests that leave the dispute of an order in peace. -/
def PeacefulFor (print : Value → String) (world : World) (orderId : OrderId)
    (order : MiniAppOrder) : Action → Prop
  | .attachOffer _ subject _ _ _ => subject = orderId →
      world.disputed orderId = false ∧
        (world.hasBill orderId = true → order.status ∉ ended ∧ order.status ∉ inProgress)
  | .signOrder _ subject role _ => subject = orderId → order.completes role.value = true →
      (order.status ∈ ended → world.disputed orderId = false ∧ world.hasBill orderId = false) ∧
        (order.status ∈ inProgress →
          world.disputed orderId = true ∨ world.hasBill orderId = false)
  | .settlementLock now subject _ policy => subject = orderId → locks now policy order = true →
      world.disputed orderId = false ∨ world.hasBill orderId = false
  | .verificationRuns _ subject riskFlags _ => subject = orderId →
      passes print world orderId order riskFlags = true →
        world.disputed orderId = false ∧
          (world.hasBill orderId = true → order.status ∈ inProgress)
  | .openDispute _ subject _ _ _ => subject = orderId →
      (order.status = .refunded → world.hasBill orderId = false) ∧
        (order.status ∉ ended → order.fulfillmentStatus ∉ [.settled, .refunded])
  | .resolveDispute _ arbitrator disputeId resolution => arbitrator = true →
      (world.disputes.get disputeId).any (·.orderId = orderId) = true →
        if refunds print resolution then
          order.status ∈ ended ∨ ∀ other ∈ world.openDisputes orderId, other = disputeId
        else if order.status ∈ ended then world.hasBill orderId = false
        else (∀ other ∈ world.openDisputes orderId, other = disputeId) ∧
          (world.hasBill orderId = true → order.status ∈ inProgress)
  | _ => True

def Peaceful (print : Value → String) (world : World) (action : Action) : Prop :=
  ∀ orderId order, world.orders orderId = some order →
    PeacefulFor print world orderId order action

/-! ## Bills and disputes after a step -/

/-- What a request does to the bill of an order. -/
def billOperation (print : Value → String) (world : World) (orderId : OrderId)
    (order : MiniAppOrder) : Action → Bill → Bill
  | .settlementLock now subject bindingId policy =>
      if subject = orderId ∧ locks now policy order then
        fun bill => { bill with status := "locked", bindingId }
      else id
  | .settlementFinalize _ subject =>
      if subject = orderId ∧ finalizes world orderId order ∧ order.status = .verified then
        fun bill => { bill with status := "settled", bindingId := order.bindingId }
      else id
  | .openDispute _ subject _ _ _ =>
      if subject = orderId ∧ order.status ≠ .settled then
        fun bill => { bill with status := "disputed" }
      else id
  | .resolveDispute _ arbitrator disputeId resolution =>
      if arbitrator ∧ (world.disputes.get disputeId).any (·.orderId = orderId) then
        if refunds print resolution then
          if order.status = .settled then id else fun bill => { bill with status := "refunded" }
        else fun bill => { bill with status := "locked" }
      else id
  | .sweep _ reference hours =>
      if 0 < hours ∧ timedOut (reference - hours * 3600) order then
        fun bill => { bill with status := "refunded" }
      else id
  | _ => id

section Steps

variable {print : Value → String} {world next : World} {action : Action} {now : Int}
  {orderId subject : OrderId} {order : MiniAppOrder} {disputeId other : DisputeId}

theorem mem_openDisputes : disputeId ∈ world.openDisputes orderId ↔
    ∃ dispute, world.disputes.get disputeId = some dispute ∧ dispute.orderId = orderId ∧
      dispute.status = .opened := by
  simp only [World.openDisputes, List.mem_map, List.mem_filter, decide_eq_true_eq]
  constructor
  · rintro ⟨⟨_, dispute⟩, ⟨member, is⟩, rfl⟩
    exact ⟨dispute, Table.mem_rows_iff.mp member, is⟩
  · rintro ⟨dispute, there, is⟩
    exact ⟨(disputeId, dispute), ⟨Table.mem_rows_iff.mpr there, is⟩, rfl⟩

theorem disputed_iff : world.disputed orderId = true ↔
    ∃ disputeId, disputeId ∈ world.openDisputes orderId := by
  unfold World.disputed
  cases world.openDisputes orderId with
  | nil => simp
  | cons first rest => simp

@[simp] theorem setOrder_disputes (world : World) (orderId : OrderId) (order : MiniAppOrder) :
    (world.setOrder orderId order).disputes = world.disputes := rfl

@[simp] theorem updateBill_disputes (world : World) (orderId : OrderId) (change : Bill → Bill) :
    (world.updateBill orderId change).disputes = world.disputes := rfl

variable (there : world.orders orderId = some order) {resolution : Dict}

include there

/-- The lock updates the bill exactly if it locks the order. -/
theorem settlementLock_bills {bindingId : Option Int} {policy : Dict} :
    (settlementLock world now subject bindingId policy).1.bills orderId =
      (world.bills orderId).modifyHead (billOperation print world orderId order
        (.settlementLock now subject bindingId policy)) := by
  by_cases same : subject = orderId
  · subst same
    simp only [settlementLock, there, billOperation, true_and]
    by_cases signed : order.status = .signed
    · simp only [signed, if_true]
      cases refused : (order.applyPolicy now policy).2 with
      | none =>
          by_cases checked : (order.applyPolicy now policy).1.status = .policyChecked
          · simp [MiniAppOrder.markLocked, require, locks, signed, checked, updateBill_bills]
          · simp [MiniAppOrder.markLocked, require, locks, signed, checked]
      | some error =>
          have unchecked := not_policyChecked_of_error signed refused
          cases error <;> simp [locks, signed, unchecked]
    · by_cases checked : order.status = .policyChecked
      · simp [MiniAppOrder.markLocked, require, locks, checked, updateBill_bills]
      · simp [MiniAppOrder.markLocked, require, locks, signed, checked]
  · rw [settlementLock_writes.1.bills orderId same]
    simp [billOperation, same]

theorem settlementFinalize_bills :
    (settlementFinalize world now subject).1.bills orderId =
      (world.bills orderId).modifyHead (billOperation print world orderId order
        (.settlementFinalize now subject)) := by
  by_cases same : subject = orderId
  · subst same
    simp only [settlementFinalize, there, billOperation, finalizes, true_and]
    cases world.runs subject with
    | none => simp
    | some run =>
        by_cases passed : run.status = .pass
        · by_cases hold : (world.risks subject).any (·.hold) = true
          · simp [passed, hold]
          · cases disputes : world.openDisputes subject with
            | cons => simp [passed, hold]
            | nil =>
                by_cases binding : order.bindingId = none
                · simp [passed, hold, binding]
                · have bound : order.bindingId.isSome = true :=
                    Option.isSome_iff_ne_none.mpr binding
                  by_cases verified : order.status = .verified
                  · simp [passed, hold, binding, bound, verified, MiniAppOrder.markSettled, require,
                      updateBill_bills]
                  · simp [passed, hold, binding, bound, verified, MiniAppOrder.markSettled, require]
        · simp [passed]
  · rw [settlementFinalize_writes.1.bills orderId same]
    simp [billOperation, same]

theorem openDispute_bills {openedBy reason : String} :
    (openDispute world now subject disputeId openedBy reason).1.bills orderId =
      (world.bills orderId).modifyHead (billOperation print world orderId order
        (.openDispute now subject disputeId openedBy reason)) := by
  by_cases same : subject = orderId
  · subst same
    by_cases settled : order.status = .settled <;>
      simp [openDispute, there, billOperation, settled, updateBill_bills]
  · rw [openDispute_writes.bills orderId same]
    simp [billOperation, same]

theorem resolveDispute_bills {arbitrator : Bool} :
    (resolveDispute print world now arbitrator disputeId resolution).1.bills orderId =
      (world.bills orderId).modifyHead (billOperation print world orderId order
        (.resolveDispute now arbitrator disputeId resolution)) := by
  cases arbitrator with
  | false => simp [resolveDispute, billOperation]
  | true =>
      cases found : world.disputes.get disputeId with
      | none => simp [resolveDispute, billOperation, found]
      | some dispute =>
          by_cases same : dispute.orderId = orderId
          · subst same
            unfold resolveDispute
            by_cases refund : refunds print resolution = true
            · by_cases settled : order.status = .settled
              · simp [billOperation, found, there, refund, settled, MiniAppOrder.markRefunded,
                  require]
              · simp [billOperation, found, there, refund, settled, MiniAppOrder.markRefunded,
                  require, updateBill_bills]
            · simp [billOperation, found, there, refund, updateBill_bills]
          · obtain ⟨subject, writes, is⟩ :=
              @resolveDispute_writes print world now true disputeId resolution
            rw [writes.bills orderId (is dispute found ▸ same)]
            simp [billOperation, found, same]

theorem sweep_bills {reference : ℚ} {hours : Int} :
    (sweepTimedOutEscrows world now reference hours).bills orderId =
      (world.bills orderId).modifyHead (billOperation print world orderId order
        (.sweep now reference hours)) := by
  unfold sweepTimedOutEscrows
  by_cases enabled : hours ≤ 0
  · simp [enabled, billOperation, not_lt.mpr enabled]
  · simp only [enabled, if_false, billOperation, not_le.mp enabled, true_and, there,
      Option.any_some]
    split <;> simp

omit there

theorem sweep_disputes {reference : ℚ} {hours : Int} :
    (sweepTimedOutEscrows world now reference hours).disputes = world.disputes := by
  unfold sweepTimedOutEscrows
  split <;> rfl

/-- The requests that can change a bill or a dispute. -/
def Action.files : Action → Bool
  | .createOrder .. | .settlementLock .. | .settlementFinalize .. | .openDispute ..
  | .resolveDispute .. | .sweep .. => true
  | _ => false

theorem sameCases_step (step : perform print world action = some next)
    (elsewhere : action.files = false) : SameCases world next := by
  cases action with
  | attachOffer | signOrder | submitEvidence =>
      obtain rfl := Option.some.inj step
      exact (change_writes _).2
  | acceptOrder | startOrder | deliverOrder =>
      obtain rfl := Option.some.inj step
      exact (sellerChange_writes _).2
  | policyCheck =>
      obtain rfl := Option.some.inj step
      exact policyCheck_writes.2
  | riskAssess =>
      obtain rfl := Option.some.inj step
      exact riskAssess_same.2
  | verificationRuns =>
      obtain rfl := Option.some.inj step
      exact verificationRuns_writes.2
  | createOrder | settlementLock | settlementFinalize | openDispute | resolveDispute | sweep =>
      simp [Action.files] at elsewhere

/-- After a request, the bills of an order are what the request has made of the first of them. -/
theorem bills_step (step : perform print world action = some next)
    (there : world.orders orderId = some order) :
    next.bills orderId =
      (world.bills orderId).modifyHead (billOperation print world orderId order action) := by
  cases action with
  | createOrder now subject buyerIdentityId buyerWallet intent offer =>
      simp only [perform, Option.ite_none_right_eq_some, Option.some.injEq] at step
      obtain ⟨fresh, rfl⟩ := step
      have different : orderId ≠ subject := by
        rintro rfl
        simp [there] at fresh
      cases offer with
      | none => exact (List.modifyHead_id ▸ rfl)
      | some offer =>
          simp [createOrder, World.createBill, billOperation, update_of_ne different]
  | settlementLock =>
      obtain rfl := Option.some.inj step
      exact settlementLock_bills there
  | settlementFinalize =>
      obtain rfl := Option.some.inj step
      exact settlementFinalize_bills there
  | openDispute =>
      simp only [perform, Option.ite_none_right_eq_some, Option.some.injEq] at step
      obtain ⟨-, rfl⟩ := step
      exact openDispute_bills there
  | resolveDispute =>
      obtain rfl := Option.some.inj step
      exact resolveDispute_bills there
  | sweep =>
      obtain rfl := Option.some.inj step
      exact sweep_bills there
  | _ =>
      rw [(sameCases_step step rfl).1]
      exact List.modifyHead_id ▸ rfl

/-- The requests that open and resolve disputes. -/
def Action.contests : Action → Bool
  | .openDispute .. | .resolveDispute .. => true
  | _ => false

theorem disputes_kept (step : perform print world action = some next)
    (elsewhere : action.contests = false) : next.disputes = world.disputes := by
  cases action with
  | createOrder now subject buyerIdentityId buyerWallet intent offer =>
      simp only [perform, Option.ite_none_right_eq_some, Option.some.injEq] at step
      obtain ⟨-, rfl⟩ := step
      cases offer <;> rfl
  | settlementLock =>
      obtain rfl := Option.some.inj step
      exact settlementLock_writes.2
  | settlementFinalize =>
      obtain rfl := Option.some.inj step
      exact settlementFinalize_writes.2
  | sweep =>
      obtain rfl := Option.some.inj step
      exact sweep_disputes
  | openDispute | resolveDispute => simp [Action.contests] at elsewhere
  | _ => exact (sameCases_step step rfl).2

theorem openDisputes_congr (same : next.disputes = world.disputes) :
    next.openDisputes orderId = world.openDisputes orderId := by
  unfold World.openDisputes
  rw [same]

/-- A new dispute of an order that is not settled is open. -/
theorem mem_openDispute {openedBy reason : String} (there : world.orders orderId = some order)
    (fresh : world.disputes.get disputeId = none) :
    other ∈ (openDispute world now subject disputeId openedBy reason).1.openDisputes orderId ↔
      other ∈ world.openDisputes orderId ∨
        (subject = orderId ∧ order.status ≠ .settled ∧ other = disputeId) := by
  unfold openDispute
  cases present : world.orders subject with
  | none =>
      have different : subject ≠ orderId := by
        rintro rfl
        simp [there] at present
      simp [different]
  | some found =>
      by_cases settled : found.status = .settled
      · simp only [settled, if_true]
        refine (or_iff_left ?_).symm
        rintro ⟨rfl, unsettled, -⟩
        obtain rfl := Option.some.inj (there.symm.trans present)
        exact unsettled settled
      · simp only [settled, if_false]
        rw [mem_openDisputes, mem_openDisputes]
        simp only [updateBill_disputes, setOrder_disputes, Table.get_set]
        by_cases same : other = disputeId
        · subst same
          simp only [if_true, Option.some.injEq, exists_eq_left', fresh, reduceCtorEq, false_and,
            exists_false, false_or, and_true]
          constructor
          · rintro rfl
            obtain rfl := Option.some.inj (there.symm.trans present)
            exact ⟨rfl, settled⟩
          · exact And.left
        · simp [same]

/-- An arbitrator's resolution is stored with the dispute that is there. -/
theorem resolveDispute_disputes {dispute : DisputeCase}
    (found : world.disputes.get disputeId = some dispute) :
    (resolveDispute print world now true disputeId resolution).1.disputes =
      world.disputes.set disputeId { dispute with status := .resolved, resolution } := by
  simp only [resolveDispute, found, if_true]
  split
  · split <;> rfl
  · split
    · split <;> rfl
    · rfl

/-- A resolved dispute is open no more. -/
theorem mem_resolveDispute {arbitrator : Bool} :
    other ∈ (resolveDispute print world now arbitrator disputeId resolution).1.openDisputes orderId ↔
      other ∈ world.openDisputes orderId ∧ ¬(arbitrator = true ∧ other = disputeId) := by
  cases arbitrator with
  | false => simp [resolveDispute]
  | true =>
      cases found : world.disputes.get disputeId with
      | none =>
          have closed : disputeId ∉ world.openDisputes orderId := by
            rw [mem_openDisputes]
            simp [found]
          simp only [resolveDispute, found, if_true, true_and]
          refine (and_iff_left_of_imp ?_).symm
          rintro isOpen rfl
          exact closed isOpen
      | some dispute =>
          rw [mem_openDisputes, mem_openDisputes, resolveDispute_disputes found, Table.get_set]
          by_cases same : other = disputeId
          · simp [same]
          · simp [same]

end Steps

/-! ## What each operation leaves of a consistent order -/

section Fits

variable {print : Value → String} {now : Int} {order after : MiniAppOrder} {bill : Option Bill}
  {disputed disputedAfter : Bool} {change : Bill → Bill}

variable (fits : Fits order bill disputed)

include fits

/-- An order that keeps its bill fits if the bill should say the same as before. -/
theorem Fits.same_bill :
    Fits after bill disputedAfter ↔
      (after.fulfillmentStatus = .disputed ↔ disputedAfter = true ∧ after.status ∉ ended) ∧
      (bill.isSome = true → dueLabel order.status disputed = dueLabel after.status disputedAfter) := by
  constructor
  · intro again
    refine ⟨again.fulfillment, fun present => ?_⟩
    obtain ⟨entry, rfl⟩ := Option.isSome_iff_exists.mp present
    exact (fits.billed entry rfl).symm.trans (again.billed entry rfl)
  · rintro ⟨fulfillment, same⟩
    refine ⟨fulfillment, fun entry member => ?_⟩
    obtain rfl := Option.mem_def.mp member
    exact (fits.billed entry rfl).trans (same rfl)

omit fits in
/-- An order with a new label on its bill fits if the bill should say so. -/
theorem fits_new_bill (label : BillLabel) (labels : ∀ entry, (change entry).label = some label) :
    Fits after (bill.map change) disputedAfter ↔
      (after.fulfillmentStatus = .disputed ↔ disputedAfter = true ∧ after.status ∉ ended) ∧
      (bill.isSome = true → dueLabel after.status disputedAfter = some label) := by
  constructor
  · intro fits
    refine ⟨fits.fulfillment, fun present => ?_⟩
    obtain ⟨entry, rfl⟩ := Option.isSome_iff_exists.mp present
    exact (fits.billed _ rfl).symm.trans (labels entry)
  · rintro ⟨fulfillment, due⟩
    refine ⟨fulfillment, fun entry member => ?_⟩
    obtain ⟨earlier, rfl, rfl⟩ := Option.map_eq_some_iff.mp member
    exact (labels earlier).trans (due rfl).symm

theorem attachOffer_fits {offer : Dict} {sellerIdentityId : String} {sellerWallet : Option String} :
    Fits (order.attachOffer now offer sellerIdentityId sellerWallet print) bill disputed ↔
      disputed = false ∧ (bill.isSome = true → order.status ∉ ended ∧ order.status ∉ inProgress) := by
  rw [fits.same_bill]
  simp only [MiniAppOrder.attachOffer, MiniAppOrder.touch_status,
    MiniAppOrder.touch_fulfillmentStatus]
  cases disputed with
  | true => simp [ended]
  | false => cases order.status <;> simp [dueLabel, ended, inProgress]

theorem sign_fits {role : Role} {signature : String} :
    Fits (order.sign now role.value signature) bill disputed ↔
      (order.completes role.value = true →
        (order.status ∈ ended → disputed = false ∧ bill.isSome = false) ∧
        (order.status ∈ inProgress → disputed = true ∨ bill.isSome = false)) := by
  have fulfillment := fits.fulfillment
  rw [fits.same_bill]
  simp only [MiniAppOrder.sign]
  split
  case isTrue completed =>
    simp only [MiniAppOrder.touch_status, MiniAppOrder.touch_fulfillmentStatus, completed,
      fulfillment, forall_const]
    cases order.status <;> cases disputed <;> cases bill <;> simp [dueLabel, ended, inProgress]
  case isFalse incomplete => simp [incomplete, fulfillment]

theorem accept_fits : Fits ((order.accept now).toOption.getD order) bill disputed := by
  refine @kept_require_two order (Fits · bill disputed) _ _ _ _ _ _ _ fits fun pending early => ?_
  simp only [List.mem_cons, List.not_mem_nil, or_false] at early
  have fulfillment := fits.fulfillment
  rw [fits.same_bill]
  rcases early with early | early | early | early <;>
    simpa [pending, early, ended] using fulfillment

theorem startProcessing_fits :
    Fits ((order.startProcessing now).toOption.getD order) bill disputed := by
  refine @kept_require_two order (Fits · bill disputed) _ _ _ _ _ _ _ fits fun locked accepted => ?_
  have fulfillment := fits.fulfillment
  rw [fits.same_bill]
  simpa [locked, accepted, ended] using fulfillment

theorem deliver_fits {evidence : Dict} :
    Fits ((order.deliver now evidence).toOption.getD order) bill disputed := by
  refine @kept_require_two order (Fits · bill disputed) _ _ _ _ _ _ _ fits fun locked underway => ?_
  simp only [List.mem_cons, List.not_mem_nil, or_false] at underway
  have fulfillment := fits.fulfillment
  rw [fits.same_bill]
  rcases underway with underway | underway <;>
    simp_all [ended, dueLabel, inProgress]

theorem submitEvidence_fits {evidence : Dict} :
    Fits ((order.submitEvidence now evidence).toOption.getD order) bill disputed := by
  refine @kept_require order (Fits · bill disputed) _ _ _ _ fits fun underway => ?_
  simp only [List.mem_cons, List.not_mem_nil, or_false] at underway
  have fulfillment := fits.fulfillment
  rw [fits.same_bill]
  rcases underway with status | status | status <;>
    cases reached : order.fulfillmentStatus <;>
      simp_all [ended, dueLabel, inProgress]

theorem applyPolicy_fits {policy : Dict} : Fits (order.applyPolicy now policy).1 bill disputed := by
  have fulfillment := fits.fulfillment
  have outcome := order.applyPolicy_outcome now policy
  generalize order.applyPolicy now policy = result at outcome
  cases outcome with
  | raised => exact fits
  | rejected _ early =>
      rw [fits.same_bill]
      simp only [List.mem_cons, List.not_mem_nil, or_false] at early
      rcases early with early | early | early <;>
        simp [MiniAppOrder.reject, early, fulfillment, ended, dueLabel, inProgress]
  | checked _ _ _ _ early =>
      rw [fits.same_bill]
      simp only [List.mem_cons, List.not_mem_nil, or_false] at early
      rcases early with early | early | early <;>
        simp [early, fulfillment, ended, dueLabel, inProgress]

theorem locked_fits {bindingId : Option Int} (checked : order.status = .policyChecked) :
    Fits (MiniAppOrder.touch { order with bindingId, status := .locked } now "locked")
        (bill.map fun bill => { bill with status := "locked", bindingId }) disputed ↔
      disputed = false ∨ bill.isSome = false := by
  have fulfillment := fits.fulfillment
  rw [fits_new_bill .locked fun entry => rfl]
  simp only [checked] at fulfillment
  simp only [MiniAppOrder.touch_status, MiniAppOrder.touch_fulfillmentStatus, fulfillment]
  cases disputed <;> cases bill <;> simp [ended, dueLabel, inProgress]

theorem markVerified_fits {runId : String} :
    Fits (order.markVerified now runId) bill disputed ↔
      disputed = false ∧ (bill.isSome = true → order.status ∈ inProgress) := by
  rw [fits.same_bill]
  simp only [MiniAppOrder.markVerified, MiniAppOrder.touch_status,
    MiniAppOrder.touch_fulfillmentStatus]
  cases disputed with
  | true => simp [ended]
  | false => cases order.status <;> simp [dueLabel, ended, inProgress]

omit fits in
theorem settled_fits : Fits (MiniAppOrder.touch { order with
      status := .settled, fulfillmentStatus := .settled } now "settled")
    (bill.map fun bill => { bill with status := "settled", bindingId := order.bindingId })
    disputed := by
  rw [fits_new_bill .settled fun entry => rfl]
  simp [ended, dueLabel]

omit fits in
theorem refunded_fits : Fits (MiniAppOrder.touch { order with
      status := .refunded, fulfillmentStatus := .refunded } now "refunded")
    (bill.map fun bill => { bill with status := "refunded" }) disputed := by
  rw [fits_new_bill .refunded fun entry => rfl]
  simp [ended, dueLabel]

omit fits in
theorem markDisputed_fits (unsettled : order.status ≠ .settled)
    (refunded : order.status = .refunded → order.fulfillmentStatus = .refunded) :
    Fits (order.markDisputed now) (bill.map fun bill => { bill with status := "disputed" }) true ↔
      (order.status = .refunded → bill.isSome = false) ∧
        (order.status ∉ ended → order.fulfillmentStatus ∉ [.settled, .refunded]) := by
  rw [fits_new_bill .disputed fun entry => rfl]
  by_cases finished : order.status = .refunded
  · simp [MiniAppOrder.markDisputed, refunded finished, finished, ended, dueLabel]
  · by_cases closed : order.fulfillmentStatus ∈ [.settled, .refunded]
    · have undisputed : order.fulfillmentStatus ≠ .disputed := by
        rintro is
        simp [is] at closed
      simp [MiniAppOrder.markDisputed, closed, undisputed, unsettled, finished, ended]
    · simp [MiniAppOrder.markDisputed, closed, unsettled, finished, ended, dueLabel]

/-- The refund of a resolution; `markRefunded` raises if the order is settled. -/
theorem markRefunded_fits :
    Fits ((order.markRefunded now).toOption.getD order)
      (bill.map (if order.status = .settled then id
        else fun bill => { bill with status := "refunded" })) disputedAfter := by
  by_cases settled : order.status = .settled
  · have fulfillment := fits.fulfillment
    simp only [settled, if_true, Option.map_id_fun, id, MiniAppOrder.markRefunded, require,
      not_true_eq_false, if_false, ne_eq]
    rw [show (Except.toOption _).getD order = order from rfl]
    rw [fits.same_bill]
    simp [settled, ended, dueLabel] at fulfillment ⊢
    exact fulfillment
  · simp only [settled, if_false]
    simpa [MiniAppOrder.markRefunded, require, settled, Except.toOption] using refunded_fits

/-- The release of a resolution. -/
theorem restoreFulfillment_fits :
    Fits (order.restoreFulfillment now) (bill.map fun bill => { bill with status := "locked" })
        disputedAfter ↔
      if order.status ∈ ended then bill.isSome = false
      else disputedAfter = false ∧ (bill.isSome = true → order.status ∈ inProgress) := by
  have fulfillment := fits.fulfillment
  rw [fits_new_bill .locked fun entry => rfl]
  by_cases finished : order.status ∈ ended
  · have undisputed : order.fulfillmentStatus ≠ .disputed := by simp [fulfillment, finished]
    simp only [MiniAppOrder.restoreFulfillment, undisputed, ne_eq, not_false_eq_true, if_true,
      finished, not_true_eq_false, and_false, true_and]
    have otherwise : dueLabel order.status disputedAfter ≠ some .locked := by
      simp only [ended, List.mem_cons, List.not_mem_nil, or_false] at finished
      rcases finished with is | is <;> simp [is, dueLabel]
    simp [otherwise]
  · have undisputed : (order.restoreFulfillment now).fulfillmentStatus ≠ .disputed := by
      unfold MiniAppOrder.restoreFulfillment
      split
      case isTrue undisputed => exact undisputed
      case isFalse => cases order.status <;> simp
    have same : (order.restoreFulfillment now).status = order.status := by
      unfold MiniAppOrder.restoreFulfillment
      split <;> rfl
    simp only [undisputed, same, finished, not_false_eq_true, and_true, false_iff, if_false,
      Bool.not_eq_true]
    cases disputedAfter with
    | true => simp
    | false => cases is : order.status <;> simp_all [dueLabel, inProgress, ended]

end Fits

/-! ## One request, and a run of them -/

section Runs

variable {print : Value → String} {world next : World} {action : Action} {orderId : OrderId}
  {order after : MiniAppOrder} {resolution : Dict} {now : Int} {disputeId : DisputeId}

theorem not_overrides_of_undisputed (peaceful : world.disputed orderId = false) :
    ¬OverridesFor world orderId order after action := by
  rintro ⟨disputeId, isOpen, _⟩
  have disputed := disputed_iff.mpr ⟨disputeId, isOpen⟩
  simp [peaceful] at disputed

theorem disputed_congr (same : next.disputes = world.disputes) :
    next.disputed orderId = world.disputed orderId := by
  rw [World.disputed, World.disputed, openDisputes_congr same]

theorem getBillByOrder_step (step : perform print world action = some next)
    (there : world.orders orderId = some order) :
    next.getBillByOrder orderId =
      (world.getBillByOrder orderId).map (billOperation print world orderId order action) := by
  unfold World.getBillByOrder
  rw [bills_step step there, List.head?_modifyHead]

/-- The order has not come to an end. -/
def Continues (order after : MiniAppOrder) : Prop :=
  after.status ∈ ended → after.status = order.status

theorem Continues.trans {between : MiniAppOrder} (first : Continues order between)
    (second : Continues between after) : Continues order after := by
  intro finished
  have same := second finished
  exact same.trans (first (same ▸ finished))

/-- Only `mark_settled` and `mark_refunded` bring an order to an end. -/
theorem Operation.continues (print : Value → String) (operation : Operation)
    (unsettled : operation ≠ .markSettled) (unrefunded : operation ≠ .markRefunded) :
    Continues order (operation.apply print now order) := by
  have same : Continues order order := fun _ => rfl
  cases operation with
  | attachOffer => simp [Continues, Operation.apply, MiniAppOrder.attachOffer, ended]
  | sign =>
      simp only [Continues, Operation.apply, MiniAppOrder.sign]
      split <;> simp [ended]
  | accept | startProcessing =>
      exact @kept_require_two order (Continues order) _ _ _ _ _ _ _ same fun _ _ _ => rfl
  | deliver =>
      refine @kept_require_two order (Continues order) _ _ _ _ _ _ _ same fun _ _ => ?_
      simp [Continues, ended]
  | markLocked | submitEvidence =>
      refine @kept_require order (Continues order) _ _ _ _ same fun _ => ?_
      simp [Continues, ended]
  | applyPolicy policy =>
      have outcome := order.applyPolicy_outcome now policy
      simp only [Continues, Operation.apply]
      generalize order.applyPolicy now policy = result at outcome
      cases outcome with
      | raised => simp
      | rejected => simp [MiniAppOrder.reject, ended]
      | checked => simp [ended]
  | markVerified => simp [Continues, Operation.apply, MiniAppOrder.markVerified, ended]
  | markSettled => exact absurd rfl unsettled
  | markRefunded => exact absurd rfl unrefunded
  | markDisputed =>
      simp only [Continues, Operation.apply, MiniAppOrder.markDisputed]
      split <;> simp
  | restoreFulfillment =>
      simp only [Continues, Operation.apply, MiniAppOrder.restoreFulfillment]
      split <;> simp

theorem Continues.not_overrides (continues : Continues order after) :
    ¬OverridesFor world orderId order after action := by
  rintro ⟨_, _, finished, changed, _⟩
  exact changed (continues finished)

theorem disputed_openDispute {subject : OrderId} {openedBy reason : String}
    (there : world.orders orderId = some order) (fresh : world.disputes.get disputeId = none) :
    (openDispute world now subject disputeId openedBy reason).1.disputed orderId =
      (world.disputed orderId || decide (subject = orderId ∧ order.status ≠ .settled)) := by
  rw [Bool.eq_iff_iff, Bool.or_eq_true, decide_eq_true_eq, disputed_iff, disputed_iff]
  simp only [mem_openDispute there fresh, exists_or]
  refine or_congr_right ⟨?_, ?_⟩
  · rintro ⟨_, subjectIs, unsettled, -⟩
    exact ⟨subjectIs, unsettled⟩
  · rintro ⟨subjectIs, unsettled⟩
    exact ⟨disputeId, subjectIs, unsettled, rfl⟩

theorem disputed_resolveDispute :
    (resolveDispute print world now true disputeId resolution).1.disputed orderId = false ↔
      ∀ other ∈ world.openDisputes orderId, other = disputeId := by
  rw [← Bool.not_eq_true, disputed_iff]
  simp only [mem_resolveDispute, true_and, not_exists, not_and, not_not]

/-- A resolution that fails, or is of a dispute about another order, closes no dispute. -/
theorem disputed_resolveDispute_of_other {arbitrator : Bool} (other : ¬(arbitrator = true ∧
      (world.disputes.get disputeId).any (·.orderId = orderId) = true)) :
    (resolveDispute print world now arbitrator disputeId resolution).1.disputed orderId =
      world.disputed orderId := by
  rw [Bool.eq_iff_iff, disputed_iff, disputed_iff]
  refine exists_congr fun candidate => mem_resolveDispute.trans (and_iff_left_of_imp ?_)
  rintro isOpen ⟨arbitrates, rfl⟩
  obtain ⟨dispute, found, about, -⟩ := mem_openDisputes.mp isOpen
  exact other ⟨arbitrates, by simp [found, about]⟩

/-- A refund by a resolution overrides the other disputes of an order that is not at its end. -/
theorem overrides_markRefunded {arbitrator : Bool} :
    ¬OverridesFor world orderId order ((order.markRefunded now).toOption.getD order)
        (.resolveDispute now arbitrator disputeId resolution) ↔
      order.status ∈ ended ∨ ∀ other ∈ world.openDisputes orderId, other = disputeId := by
  have differs : ∀ other, (∀ time arbitrates outcome, Action.resolveDispute now arbitrator disputeId
      resolution ≠ .resolveDispute time arbitrates other outcome) ↔ other ≠ disputeId := by
    intro other
    constructor
    · rintro differs rfl
      exact differs now arbitrator resolution rfl
    · rintro different time arbitrates outcome same
      exact different (Action.resolveDispute.inj same).2.2.1.symm
  simp only [OverridesFor, differs]
  by_cases finished : order.status ∈ ended
  · have same : ((order.markRefunded now).toOption.getD order).status = order.status := by
      simp only [ended, List.mem_cons, List.not_mem_nil, or_false] at finished
      rcases finished with settled | refunded
      · simp [MiniAppOrder.markRefunded, require, settled, Except.toOption]
      · simp [MiniAppOrder.markRefunded, require, refunded, Except.toOption]
    simp [same, finished]
  · have changed : ((order.markRefunded now).toOption.getD order).status = .refunded := by
      simp only [ended, List.mem_cons, List.not_mem_nil, or_false, not_or] at finished
      simp [MiniAppOrder.markRefunded, require, finished.1, Except.toOption]
    have different : OrderStatus.refunded ≠ order.status := by
      rintro is
      simp [← is, ended] at finished
    simp only [changed, finished, different, ne_eq, not_false_eq_true, true_and, false_or,
      not_exists, not_and, not_not]
    simp [ended]

/-- Locking an order, or failing to, after the policy check that may come first. -/
theorem settlementLock_fits {bindingId : Option Int} {policy : Dict} {bill : Option Bill}
    {disputed : Bool} (fits : Fits order bill disputed) :
    Fits ((if order.status = .signed then [.applyPolicy policy, .markLocked bindingId]
          else [.markLocked bindingId] : List Operation).foldl
          (fun order operation => operation.apply print now order) order)
        (bill.map (if locks now policy order = true then
          fun bill => { bill with status := "locked", bindingId } else id)) disputed ↔
      (locks now policy order = true → disputed = false ∨ bill.isSome = false) := by
  have both : ∀ checked : MiniAppOrder, Fits checked bill disputed →
      (Fits ((checked.markLocked now bindingId).toOption.getD checked)
        (bill.map (if checked.status = .policyChecked then
          fun bill => { bill with status := "locked", bindingId } else id)) disputed ↔
      (checked.status = .policyChecked → disputed = false ∨ bill.isSome = false)) := by
    intro checked fits
    by_cases passed : checked.status = .policyChecked
    · simpa [passed, MiniAppOrder.markLocked, require, Except.toOption] using
        locked_fits fits passed
    · simpa [passed, MiniAppOrder.markLocked, require, Except.toOption] using fits
  by_cases signed : order.status = .signed
  · simpa [signed, locks, Operation.apply] using both _ (applyPolicy_fits fits)
  · simpa [signed, locks, Operation.apply] using both _ fits

theorem settlementLock_continues {bindingId : Option Int} {policy : Dict} :
    Continues order ((if order.status = .signed then [.applyPolicy policy, .markLocked bindingId]
      else [.markLocked bindingId] : List Operation).foldl
      (fun order operation => operation.apply print now order) order) := by
  split
  · exact (Operation.continues print (.applyPolicy policy) (by simp) (by simp)).trans
      (Operation.continues print (.markLocked bindingId) (by simp) (by simp))
  · exact Operation.continues print (.markLocked bindingId) (by simp) (by simp)

/-- An order that a request leaves alone still fits, and nothing has been overridden. -/
theorem Fits.untouched (fits : Fits order (world.getBillByOrder orderId) (world.disputed orderId)) :
    Fits order ((world.getBillByOrder orderId).map id) (world.disputed orderId) ∧
      ¬OverridesFor world orderId order order action := by
  rw [Option.map_id_fun]
  exact ⟨fits, Continues.not_overrides fun _ => rfl⟩

/-- A request that runs an operation on an order, or none, and the operation brings no order to an
end. -/
theorem Fits.once_iff {now : Int} {bill : Option Bill} {disputed : Bool} {applies keeps : Prop}
    [Decidable applies] (fits : Fits order bill disputed) (operation : Operation)
    (unsettled : operation ≠ .markSettled) (unrefunded : operation ≠ .markRefunded)
    (kept : Fits (operation.apply print now order) bill disputed ↔ keeps) :
    (applies → keeps) ↔
      Fits ((if applies then [operation] else []).foldl
          (fun order operation => operation.apply print now order) order) (bill.map id) disputed ∧
        ¬OverridesFor world orderId order ((if applies then [operation] else []).foldl
          (fun order operation => operation.apply print now order) order) action := by
  rw [Option.map_id_fun]
  by_cases ran : applies
  · have peaceful : ¬OverridesFor world orderId order (operation.apply print now order) action :=
      (operation.continues print unsettled unrefunded).not_overrides
    simp only [ran, if_true, List.foldl_cons, List.foldl_nil, forall_const, id]
    exact kept.symm.trans (and_iff_left peaceful).symm
  · simp only [ran, if_false, List.foldl_nil, false_implies, id]
    exact iff_of_true trivial ⟨fits, Continues.not_overrides fun _ => rfl⟩

/-- A request leaves an order in peace exactly if the order then fits its bill and its disputes
and nothing has been overridden. -/
theorem peacefulFor_iff (step : perform print world action = some next)
    (there : world.orders orderId = some order)
    (fits : Fits order (world.getBillByOrder orderId) (world.disputed orderId))
    (refunded : order.status = .refunded → order.fulfillmentStatus = .refunded)
    (now : next.orders orderId = some after) :
    PeacefulFor print world orderId order action ↔
      Fits after (next.getBillByOrder orderId) (next.disputed orderId) ∧
        ¬OverridesFor world orderId order after action := by
  obtain rfl := Option.some.inj ((orders_step step there).symm.trans now)
  clear now
  rw [getBillByOrder_step step there]
  have same : action.contests = false → next.disputed orderId = world.disputed orderId :=
    fun elsewhere => disputed_congr (disputes_kept step elsewhere)
  cases action with
  | createOrder | riskAssess =>
      rw [same rfl]
      exact iff_of_true trivial fits.untouched
  | attachOffer time subject offer sellerIdentityId sellerWallet =>
      rw [same rfl]
      exact fits.once_iff (.attachOffer offer sellerIdentityId sellerWallet) (by simp) (by simp)
        (attachOffer_fits fits)
  | signOrder time subject role signature =>
      rw [same rfl]
      exact fits.once_iff (.sign role signature) (by simp) (by simp) (sign_fits fits)
  | acceptOrder time subject identityId =>
      rw [same rfl]
      exact iff_of_true trivial ((fits.once_iff .accept (by simp) (by simp)
        (iff_true_intro (accept_fits fits))).mp fun _ => trivial)
  | startOrder time subject identityId =>
      rw [same rfl]
      exact iff_of_true trivial ((fits.once_iff .startProcessing (by simp) (by simp)
        (iff_true_intro (startProcessing_fits fits))).mp fun _ => trivial)
  | deliverOrder time subject identityId evidence =>
      rw [same rfl]
      exact iff_of_true trivial ((fits.once_iff (.deliver evidence) (by simp) (by simp)
        (iff_true_intro (deliver_fits fits))).mp fun _ => trivial)
  | submitEvidence time subject evidence =>
      rw [same rfl]
      exact iff_of_true trivial ((fits.once_iff (.submitEvidence evidence) (by simp) (by simp)
        (iff_true_intro (submitEvidence_fits fits))).mp fun _ => trivial)
  | policyCheck time subject policy =>
      rw [same rfl]
      exact iff_of_true trivial ((fits.once_iff (.applyPolicy policy) (by simp) (by simp)
        (iff_true_intro (applyPolicy_fits fits))).mp fun _ => trivial)
  | settlementLock time subject bindingId policy =>
      rw [same rfl]
      by_cases subjectIs : subject = orderId
      · simp only [PeacefulFor, operations, billOperation, subjectIs, if_true, forall_const,
          true_and, Action.now]
        exact (settlementLock_fits fits).symm.trans
          (and_iff_left settlementLock_continues.not_overrides).symm
      · simp only [PeacefulFor, operations, billOperation, subjectIs, if_false, false_implies,
          false_and]
        exact iff_of_true trivial fits.untouched
  | verificationRuns time subject riskFlags runId =>
      rw [same rfl]
      exact and_imp.symm.trans (fits.once_iff (.markVerified runId) (by simp) (by simp)
        (markVerified_fits fits))
  | settlementFinalize time subject =>
      rw [same rfl]
      refine iff_of_true trivial ?_
      by_cases applies : subject = orderId ∧ finalizes world orderId order
      · have undisputed : world.disputed orderId = false := by
          have finalized := applies.2
          simp only [finalizes, Bool.and_eq_true] at finalized
          simp [World.disputed, finalized.1.2]
        refine ⟨?_, not_overrides_of_undisputed undisputed⟩
        simp only [operations, billOperation, applies, and_self, if_true, true_and,
          List.foldl_cons, List.foldl_nil, Operation.apply]
        by_cases verified : order.status = .verified
        · simpa [MiniAppOrder.markSettled, require, verified, Except.toOption] using settled_fits
        · simpa [MiniAppOrder.markSettled, require, verified, Except.toOption] using fits
      · simp only [operations, billOperation, if_neg applies]
        rw [if_neg fun both => applies ⟨both.1, both.2.1⟩]
        exact fits.untouched
  | openDispute time subject disputeId openedBy reason =>
      simp only [perform, Option.ite_none_right_eq_some, Option.some.injEq] at step
      obtain ⟨fresh, rfl⟩ := step
      rw [Option.isNone_iff_eq_none] at fresh
      have opened : (openDispute world time subject disputeId openedBy reason).1.disputed orderId =
          _ := disputed_openDispute there fresh
      rw [opened]
      by_cases applies : subject = orderId ∧ order.status ≠ .settled
      · simp only [PeacefulFor, operations, billOperation, if_pos applies, List.foldl_cons,
          List.foldl_nil, Action.now, decide_eq_true applies, Bool.or_true]
        refine Iff.trans (forall_prop_of_true applies.1) ?_
        exact (markDisputed_fits applies.2 refunded).symm.trans (and_iff_left
          (Operation.continues print .markDisputed (by simp) (by simp)).not_overrides).symm
      · simp only [PeacefulFor, operations, billOperation, if_neg applies,
          decide_eq_false applies, Bool.or_false]
        refine iff_of_true (fun subjectIs => ?_) fits.untouched
        have settled : order.status = .settled := by
          by_contra unsettled
          exact applies ⟨subjectIs, unsettled⟩
        simp [settled, ended]
  | resolveDispute time arbitrator disputeId resolution =>
      obtain rfl := Option.some.inj step
      by_cases applies : arbitrator = true ∧
          (world.disputes.get disputeId).any (·.orderId = orderId) = true
      · obtain ⟨rfl, about⟩ := applies
        by_cases refund : refunds print resolution = true
        · simp only [PeacefulFor, operations, billOperation, about, refund, and_self, if_true,
            List.foldl_cons, List.foldl_nil, Action.now, forall_const]
          exact overrides_markRefunded.symm.trans (and_iff_right (markRefunded_fits fits)).symm
        · simp only [PeacefulFor, operations, billOperation, about, refund, and_self, if_true,
            Bool.false_eq_true, if_false, List.foldl_cons, List.foldl_nil, Action.now, forall_const]
          rw [← disputed_resolveDispute]
          exact (restoreFulfillment_fits fits).symm.trans (and_iff_left
            (Operation.continues print .restoreFulfillment (by simp) (by simp)).not_overrides).symm
      · rw [disputed_resolveDispute_of_other applies]
        simp only [PeacefulFor, operations, billOperation, if_neg applies]
        exact iff_of_true (fun arbitrates about => absurd ⟨arbitrates, about⟩ applies) fits.untouched
  | sweep time reference hours =>
      rw [same rfl]
      refine iff_of_true trivial ?_
      by_cases applies : 0 < hours ∧ timedOut (reference - hours * 3600) order
      · have overdue := applies.2
        simp only [timedOut, decide_eq_true_eq, List.mem_cons, List.not_mem_nil,
          or_false] at overdue
        obtain ⟨underway, quiet, -⟩ := overdue
        have unfinished : order.status ∉ ended := by
          rcases underway with status | status | status <;> simp [status, ended]
        have undisputed : world.disputed orderId = false := by
          by_contra disputed
          exact quiet (fits.fulfillment.mpr ⟨Bool.eq_true_of_not_eq_false disputed, unfinished⟩)
        have unsettled : order.status ≠ .settled := by
          rintro settled
          simp [settled, ended] at unfinished
        refine ⟨?_, not_overrides_of_undisputed undisputed⟩
        simp only [operations, billOperation, if_pos applies, List.foldl_cons, List.foldl_nil]
        simpa [Operation.apply, unsettled] using markRefunded_fits fits
      · simp only [operations, billOperation, if_neg applies]
        exact fits.untouched

/-- Every dispute and every bill is about an order that exists. -/
structure World.Registered (world : World) : Prop where
  disputes : ∀ disputeId dispute, world.disputes.get disputeId = some dispute →
    (world.orders dispute.orderId).isSome
  bills : ∀ orderId, world.orders orderId = none → world.bills orderId = []

theorem orders_persist (step : perform print world action = some next)
    (present : (world.orders orderId).isSome) : (next.orders orderId).isSome := by
  obtain ⟨order, there⟩ := Option.isSome_iff_exists.mp present
  rw [orders_step step there]
  rfl

/-- A request opens a dispute about an order that exists, and changes no dispute's order. -/
theorem disputes_step (step : perform print world action = some next) {disputeId : DisputeId}
    {dispute : DisputeCase} (found : next.disputes.get disputeId = some dispute) :
    (∃ earlier, world.disputes.get disputeId = some earlier ∧
      earlier.orderId = dispute.orderId) ∨ (world.orders dispute.orderId).isSome := by
  cases action with
  | openDispute time subject opened openedBy reason =>
      simp only [perform, Option.ite_none_right_eq_some, Option.some.injEq] at step
      obtain ⟨-, rfl⟩ := step
      unfold openDispute at found
      split at found
      · exact .inl ⟨dispute, found, rfl⟩
      · rename_i present
        split at found
        · exact .inl ⟨dispute, found, rfl⟩
        · rw [updateBill_disputes, setOrder_disputes] at found
          rcases Table.get_set_eq_some.mp found with ⟨-, rfl⟩ | ⟨-, found⟩
          · exact .inr (present ▸ rfl)
          · exact .inl ⟨dispute, found, rfl⟩
  | resolveDispute time arbitrator resolved resolution =>
      obtain rfl := Option.some.inj step
      cases arbitrator with
      | false => exact .inl ⟨dispute, found, rfl⟩
      | true =>
          cases before : world.disputes.get resolved with
          | none =>
              simp only [resolveDispute, before, if_true] at found
              exact .inl ⟨dispute, found, rfl⟩
          | some earlier =>
              rw [resolveDispute_disputes before] at found
              rcases Table.get_set_eq_some.mp found with ⟨same, rfl⟩ | ⟨-, found⟩
              · exact .inl ⟨earlier, same ▸ before, rfl⟩
              · exact .inl ⟨dispute, found, rfl⟩
  | _ => exact .inl ⟨dispute, disputes_kept step rfl ▸ found, rfl⟩

/-- An order without bills gets one when it is created with an offer. -/
theorem bills_absent (step : perform print world action = some next)
    (absent : next.orders orderId = none) (none : world.bills orderId = []) :
    next.bills orderId = [] := by
  rcases creates_or_noMore step orderId with ⟨time, _, _, _, offer, rfl⟩ | noMore
  · simp only [perform, Option.ite_none_right_eq_some, Option.some.injEq] at step
    obtain ⟨-, rfl⟩ := step
    cases offer <;> simp [createOrder, World.createBill] at absent
  · exact noMore.2 none

theorem registered_of_reachable (reachable : (system print).Reachable world) : world.Registered := by
  refine reachable.invariant ?_ ?_
  · rintro _ rfl
    exact ⟨fun _ _ found => by simp at found, fun _ _ => rfl⟩
  · rintro state action next - registered step
    constructor
    · intro disputeId dispute found
      refine orders_persist step ?_
      rcases disputes_step step found with ⟨earlier, before, same⟩ | present
      · exact same ▸ registered.disputes disputeId earlier before
      · exact present
    · intro orderId absent
      refine bills_absent step absent (registered.bills orderId ?_)
      by_contra present
      have persists := orders_persist step (Option.isSome_iff_ne_none.mpr present)
      simp [absent] at persists

/-- The fulfilment of a refunded order is refunded as well. -/
def BothRefunded (order : MiniAppOrder) : Prop :=
  order.status = .refunded → order.fulfillmentStatus = .refunded

theorem bothRefunded_apply {now : Int} (operation : Operation) (both : BothRefunded order) :
    BothRefunded (operation.apply print now order) := by
  cases operation with
  | attachOffer => simp [BothRefunded, Operation.apply, MiniAppOrder.attachOffer]
  | sign =>
      simp only [BothRefunded, Operation.apply, MiniAppOrder.sign]
      split
      · simp
      · exact both
  | accept =>
      refine kept_require_two both fun _ early refunded => ?_
      rw [show order.status = .refunded from refunded] at early
      simp at early
  | startProcessing =>
      refine kept_require_two both fun locked _ refunded => ?_
      exact absurd (locked.symm.trans refunded) (by simp)
  | deliver =>
      refine kept_require_two both fun _ _ => ?_
      simp [BothRefunded]
  | markLocked | submitEvidence | markSettled | markRefunded =>
      refine kept_require both fun _ => ?_
      simp [BothRefunded]
  | applyPolicy policy =>
      have outcome := order.applyPolicy_outcome now policy
      simp only [Operation.apply]
      generalize order.applyPolicy now policy = result at outcome
      cases outcome with
      | raised => exact both
      | rejected => simp [BothRefunded, MiniAppOrder.reject]
      | checked => simp [BothRefunded]
  | markVerified => simp [BothRefunded, Operation.apply, MiniAppOrder.markVerified]
  | markDisputed =>
      simp only [Operation.apply, MiniAppOrder.markDisputed]
      split
      case isTrue => exact both
      case isFalse closed =>
        intro refunded
        have fulfillment := both refunded
        simp [fulfillment] at closed
  | restoreFulfillment =>
      simp only [Operation.apply, MiniAppOrder.restoreFulfillment]
      split
      case isTrue => exact both
      case isFalse disputed =>
        intro refunded
        have fulfillment := both refunded
        simp [fulfillment] at disputed

theorem bothRefunded_of_reachable (reachable : (system print).Reachable world)
    (there : world.orders orderId = some order) : BothRefunded order := by
  refine operation_invariant ?_ (fun _ _ operation both => bothRefunded_apply operation both)
    reachable there
  intro now buyerIdentityId intent buyerWallet
  simp [BothRefunded, MiniAppOrder.create]

/-- A new order fits. -/
theorem fits_new (reachable : (system print).Reachable world)
    (step : perform print world action = some next) (absent : world.orders orderId = none)
    (there : next.orders orderId = some order) :
    Fits order (next.getBillByOrder orderId) (next.disputed orderId) := by
  have registered := registered_of_reachable reachable
  have undisputed : world.disputed orderId = false := by
    rw [← Bool.not_eq_true, disputed_iff]
    rintro ⟨disputeId, isOpen⟩
    obtain ⟨dispute, found, rfl, -⟩ := mem_openDisputes.mp isOpen
    have present := registered.disputes disputeId dispute found
    simp [absent] at present
  obtain ⟨now, buyerIdentityId, buyerWallet, intent, offer, rfl⟩ :=
    createOrder_of_new step absent there
  simp only [perform, Option.ite_none_right_eq_some, Option.some.injEq] at step
  obtain ⟨-, rfl⟩ := step
  have billless := registered.bills orderId absent
  cases offer with
  | none =>
      simp only [createOrder, setOrder_orders, if_true, Option.some.injEq] at there
      subst there
      constructor
      · rw [disputed_congr (show (createOrder print world now orderId buyerIdentityId buyerWallet
          intent none).disputes = world.disputes from rfl), undisputed]
        simp [MiniAppOrder.create]
      · simp [createOrder, World.getBillByOrder, billless]
  | some offer =>
      simp only [createOrder, World.createBill, setOrder_orders, if_true, Option.some.injEq] at there
      subst there
      constructor
      · rw [disputed_congr (show (createOrder print world now orderId buyerIdentityId buyerWallet
          intent (some offer)).disputes = world.disputes from rfl), undisputed]
        simp [MiniAppOrder.attachOffer]
      · rw [disputed_congr (show (createOrder print world now orderId buyerIdentityId buyerWallet
          intent (some offer)).disputes = world.disputes from rfl), undisputed]
        simp [createOrder, World.createBill, World.getBillByOrder, billless, Bill.label, dueLabel,
          MiniAppOrder.attachOffer, inProgress]

theorem peaceful_iff (reachable : (system print).Reachable world) (consistent : world.Consistent)
    (step : perform print world action = some next) :
    Peaceful print world action ↔ next.Consistent ∧ ¬Overrides world action next := by
  constructor
  · intro peaceful
    have kept := fun orderId order (there : world.orders orderId = some order) =>
      (peacefulFor_iff step there (consistent orderId order there)
        (bothRefunded_of_reachable reachable there) (orders_step step there)).mp
        (peaceful orderId order there)
    constructor
    · intro orderId after now
      cases before : world.orders orderId with
      | none => exact fits_new reachable step before now
      | some order =>
          rw [orders_step step before, Option.some.injEq] at now
          exact now ▸ (kept orderId order before).1
    · rintro ⟨orderId, order, after, there, now, overridden⟩
      rw [orders_step step there, Option.some.injEq] at now
      exact (kept orderId order there).2 (now ▸ overridden)
  · rintro ⟨consistentAfter, peaceful⟩ orderId order there
    have now := orders_step step there
    refine (peacefulFor_iff step there (consistent orderId order there)
      (bothRefunded_of_reachable reachable there) now).mpr ⟨consistentAfter orderId _ now, ?_⟩
    exact fun overridden => peaceful ⟨orderId, order, _, there, now, overridden⟩

/-- A run leaves every disputed order in peace exactly if fulfilment and bill always say what they
should and nothing but the resolution of an open dispute settles or refunds a disputed order. -/
theorem disputes_hold_money {actions : List Action}
    (run : (system print).Run {} actions world) :
    ((system print).restrict (Peaceful print)).Run {} actions world ↔
      ¬(system print).Visits {} actions world (fun world => ¬world.Consistent) ∧
        ¬(system print).Takes {} actions world Overrides := by
  refine run.restrict_iff_kept ?_ ?_ (.init rfl) ?_
  · intro state action next other step again
    exact Option.some.inj (step.symm.trans again)
  · intro state action next reachable consistent step
    exact peaceful_iff reachable consistent step
  · intro orderId order there
    simp at there

end Runs

namespace Demo

/-- Two disputes of a locked order, of which the arbitrator resolves one for the seller. -/
def disputedTwice : Scene where
  actions := locked.actions ++ [.openDispute 4 "o" "d" "b" "late", .openDispute 5 "o" "e" "b" "lost",
    .resolveDispute 6 true "d" [("action", .text "release")]]
  possible := by decide +kernel

/-- The sweep refunds the order for good. -/
def swept : Scene := disputedTwice.next (.sweep 7 (10 ^ 6) 72) (by decide +kernel)

/-- An order with one dispute. -/
def disputedOnce : Scene :=
  locked.next (.openDispute 4 "o" "d" "b" "late") (by decide +kernel)

def sweptOrder : MiniAppOrder := (swept.world.orders "o").get (by decide +kernel)

def disputedOrder : MiniAppOrder := (disputedTwice.world.orders "o").get (by decide +kernel)

end Demo

/-- Of two disputes one is resolved for the seller, so the fulfilment is disputed no more, and the
sweep refunds the order while the other dispute is open. -/
theorem refunded_under_dispute :
    (system Demo.print).Run {} Demo.swept.actions Demo.swept.world ∧
    (system Demo.print).Takes {} Demo.swept.actions Demo.swept.world Overrides := by
  refine ⟨Demo.swept.run, .last Demo.disputedTwice.run (Demo.disputedTwice.step _ _) ?_⟩
  refine ⟨"o", Demo.disputedOrder, Demo.sweptOrder, (Option.some_get _).symm,
    (Option.some_get _).symm, "e", ?_, ?_, ?_, ?_⟩
  · decide +kernel
  · decide +kernel
  · decide +kernel
  · simp

theorem disputes_hold_money_once :
    ((system Demo.print).restrict (Peaceful Demo.print)).Run {} Demo.disputedOnce.actions
        Demo.disputedOnce.world ↔
      ¬(system Demo.print).Visits {} Demo.disputedOnce.actions Demo.disputedOnce.world
          (fun world => ¬world.Consistent) ∧
        ¬(system Demo.print).Takes {} Demo.disputedOnce.actions Demo.disputedOnce.world Overrides :=
  disputes_hold_money Demo.disputedOnce.run

end TrustChain.Commerce
