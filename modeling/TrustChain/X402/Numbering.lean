import TrustChain.Receipts.Chain
import TrustChain.X402.Audit

/-!
# The numbers of the receipts

Payments and submissions together number the receipts of a task from one, since the rows that a
transaction has inserted keep others from the same step until it ends.
-/

namespace TrustChain.X402

open Library Service Receipts

/-- The receipts cannot both be stored. -/
def Conflict (first second : ExecutionReceipt) : Prop :=
  first.receiptId = second.receiptId ∨
    (first.taskId = second.taskId ∧ first.stepIndex = second.stepIndex)

/-- The receipt that a request is about to store, or has inserted. -/
def Stage.receipt? : Stage → Option ExecutionReceipt
  | .numbered receipt | .absent receipt | .recorded receipt _ | .saved receipt _ _ => some receipt
  | .asking _ | .quoted _ _ | .paid _ _ _ | .fetched _ _ | .ended => none

/-- The receipt takes a step that is free or the next one, and ends when it has started. -/
structure Ready (rows : Rows) (receipt : ExecutionReceipt) : Prop where
  continues : rows.Continues receipt
  lasts : receipt.startedAt.instant ≤ receipt.endedAt.instant

structure World.Ordered (column : DateTime → DateTime) (world : World) : Prop where
  numbered : world.receipts.rows.Numbered
  stored : world.receipts.rows.Stored column
  submitted : ∀ client stage, world.receipts.pending client = some stage →
    Ready world.receipts.rows stage.receipt
  ready : ∀ request stage, world.requests.get request = some stage →
    ∀ receipt ∈ stage.receipt?, Ready world.receipts.rows receipt
  free : ∀ request stage, world.requests.get request = some stage →
    ∀ receipt ∈ stage.held, ¬world.receipts.rows.Taken receipt
  apart : ∀ request other stage stage', request ≠ other →
    world.requests.get request = some stage → world.requests.get other = some stage' →
    ∀ receipt ∈ stage.held, ∀ receipt' ∈ stage'.held, ¬Conflict receipt receipt'

variable {column : DateTime → DateTime} {signing : Signing} {wire : Wire} {world next : World}
  {rows : Rows} {receipt other : ExecutionReceipt} {request : RequestNo} {stage : Stage}
  {action : Action}

/-! ## The table of receipts -/

theorem ready_of_follows (follows : Follows rows receipt) : Ready rows receipt :=
  ⟨follows.continues, follows.lasts⟩

/-- Storing a receipt takes what it conflicts with. -/
theorem taken_set (fresh : rows.get receipt.receiptId = none) :
    Rows.Taken (rows.set receipt.receiptId (toRow column receipt)) other ↔
      rows.Taken other ∨ Conflict receipt other := by
  unfold Rows.Taken Conflict
  rw [Table.get_set, ofTask_set fresh]
  have step : (toRow column receipt).stepIndex = receipt.stepIndex := rfl
  have task : (toRow column receipt).taskId = receipt.taskId := rfl
  rw [task]
  by_cases same : other.receiptId = receipt.receiptId
  · simp [same]
  · rw [if_neg same]
    by_cases here : receipt.taskId = other.taskId
    · simp [here, step, Ne.symm same]
      rw [or_assoc, or_comm (a := receipt.stepIndex = other.stepIndex)]
    · simp [here, Ne.symm same]

theorem Ready.grow (ready : Ready rows other) (fresh : rows.get receipt.receiptId = none) :
    Ready (rows.set receipt.receiptId (toRow column receipt)) other := by
  refine ⟨ready.continues.imp_right ?_, ready.lasts⟩
  rintro ⟨prior, inside, after⟩
  refine ⟨prior, ?_, after⟩
  rw [ofTask_set fresh]
  split
  · exact List.mem_cons_of_mem _ inside
  · exact inside

/-- The receipt of a payment comes after the latest one of its task. -/
theorem ready_auditReceipt {job : Job} {result : FetchResult} {payment : ExternalPaymentRecord}
    {latest : Option ExecutionReceipt} {receiptId : ReceiptId} {now : DateTime}
    (read : Receipts.readLatest rows job.taskId = .ok latest) :
    Ready rows (auditReceipt job result payment latest receiptId now) := by
  refine ⟨?_, le_rfl⟩
  have read' : Receipts.readLatest rows
      (auditReceipt job result payment latest receiptId now).taskId = .ok latest := read
  rcases readLatest_ok read' with ⟨rfl, -⟩ | ⟨prior, row, rfl, inside, stored⟩
  · exact .inl rfl
  · exact .inr ⟨row, inside, congrArg (· + 1) (fromRow_fields stored).1⟩

/-! ## One step -/

namespace World.Ordered

variable (ordered : world.Ordered column)

include ordered

theorem suspend (ready : ∀ receipt ∈ stage.receipt?, Ready world.receipts.rows receipt)
    (free : ∀ receipt ∈ stage.held, ¬world.receipts.rows.Taken receipt)
    (apart : ∀ other stage', other ≠ request → world.requests.get other = some stage' →
      ∀ receipt ∈ stage.held, ∀ receipt' ∈ stage'.held, ¬Conflict receipt receipt') :
    (world.suspend request stage).Ordered column where
  numbered := ordered.numbered
  stored := ordered.stored
  submitted := ordered.submitted
  ready other found there := by
    change (world.requests.set request stage).get other = some found at there
    rcases Table.get_set_eq_some.mp there with ⟨-, rfl⟩ | ⟨-, there⟩
    · exact ready
    · exact ordered.ready other found there
  free other found there := by
    change (world.requests.set request stage).get other = some found at there
    rcases Table.get_set_eq_some.mp there with ⟨-, rfl⟩ | ⟨-, there⟩
    · exact free
    · exact ordered.free other found there
  apart first second found found' different there there' := by
    change (world.requests.set request stage).get first = some found at there
    change (world.requests.set request stage).get second = some found' at there'
    rcases Table.get_set_eq_some.mp there with ⟨here, rfl⟩ | ⟨elsewhere, was⟩
    · have elsewhere : second ≠ request := fun same => different (here.trans same.symm)
      rw [Table.get_set_of_ne elsewhere] at there'
      exact apart second found' elsewhere there'
    · rcases Table.get_set_eq_some.mp there' with ⟨-, rfl⟩ | ⟨-, there'⟩
      · intro receipt held receipt' held' conflict
        refine apart first found elsewhere was receipt' held' receipt held ?_
        exact conflict.imp Eq.symm fun both => ⟨both.1.symm, both.2.symm⟩
      · exact ordered.apart first second found found' different was there'

/-- A stage without a row of its own. -/
theorem idle (ready : ∀ receipt ∈ stage.receipt?, Ready world.receipts.rows receipt)
    (nothing : stage.held = none) : (world.suspend request stage).Ordered column := by
  have none_ (receipt : ExecutionReceipt) : receipt ∉ stage.held := by
    rw [nothing]
    exact Option.not_mem_none receipt
  exact ordered.suspend ready (fun receipt held => absurd held (none_ receipt))
    fun _ _ _ _ receipt held => absurd held (none_ receipt)

theorem continue_ {outcome : Except HttpError Stage}
    (ready : ∀ stage, outcome = .ok stage →
      (∀ receipt ∈ stage.receipt?, Ready world.receipts.rows receipt) ∧ stage.held = none) :
    (world.continue request outcome).Ordered column := by
  cases ran : outcome with
  | ok stage => exact ordered.idle (ready stage ran).1 (ready stage ran).2
  | error => exact ordered.idle (fun _ nothing => by cases nothing) rfl

/-- A receipt is stored that conflicts with no row that a transaction has inserted. -/
theorem grow (ready : Ready world.receipts.rows receipt)
    (unused : ¬world.receipts.rows.Taken receipt)
    (clear : ∀ request stage, world.requests.get request = some stage →
      ∀ held ∈ stage.held, ¬Conflict receipt held) :
    World.Ordered column { world with receipts := { world.receipts with
      rows := world.receipts.rows.set receipt.receiptId (toRow column receipt) } } := by
  have fresh : world.receipts.rows.get receipt.receiptId = none :=
    Option.not_isSome_iff_eq_none.mp fun taken => unused (.inl taken)
  refine ⟨ordered.numbered.insert ready.continues unused,
    ordered.stored.set ⟨receipt, rfl, ready.lasts⟩, fun client stage waiting => ?_,
    fun request stage there other coming => ?_, fun request stage there held has => ?_,
    ordered.apart⟩
  · exact (ordered.submitted client stage waiting).grow fresh
  · exact (ordered.ready request stage there other coming).grow fresh
  · rw [taken_set fresh, not_or]
    exact ⟨ordered.free request stage there held has, clear request stage there held has⟩

/-- A submission goes on without storing a row. -/
theorem submit (client : Client) (stage : Option Receipts.Stage)
    (ready : ∀ suspended ∈ stage, Ready world.receipts.rows suspended.receipt) :
    World.Ordered column { world with receipts := world.receipts.suspend client stage } := by
  refine { ordered with submitted := fun other suspended waiting => ?_ }
  change Function.update world.receipts.pending client stage other = some suspended at waiting
  by_cases here : other = client
  · subst here
    rw [Function.update_self] at waiting
    exact ready suspended waiting
  · rw [Function.update_of_ne here] at waiting
    exact ordered.submitted other suspended waiting

theorem submission {action : Receipts.Action} (served : ¬world.Waits action)
    {receipts : Receipts.World}
    (step : Receipts.perform column signing world.receipts action = some receipts) :
    World.Ordered column { world with receipts } := by
  cases action with
  | ask client context route receipt =>
      rcases perform_ask step with rfl | ⟨checked, accepted, rfl⟩
      · exact ordered
      · refine ordered.submit client _ fun suspended same => ?_
        obtain rfl := Option.some.inj same
        exact ready_of_follows (accept_follows accepted)
  | lookUp client =>
      rcases perform_lookUp step with rfl | ⟨receipt, waiting, rfl⟩
      · exact ordered.submit client none fun _ nothing => by cases nothing
      · refine ordered.submit client _ fun suspended same => ?_
        obtain rfl := Option.some.inj same
        have ready := ordered.submitted client _ waiting
        exact ready
  | insert client =>
      rcases perform_insert step with rfl | ⟨receipt, rows, waiting, inserted, rfl⟩
      · exact ordered.submit client none fun _ nothing => by cases nothing
      · simp only [Receipts.insert, require_bind_eq_ok] at inserted
        obtain ⟨unused, inserted⟩ := inserted
        obtain rfl := Except.ok.inj inserted
        have ready := ordered.submitted client _ waiting
        have grown := ordered.grow ready unused fun request stage there held has conflict => ?_
        · exact grown.submit client none fun _ nothing => by cases nothing
        · refine served ⟨_, waiting, (request, stage), Table.mem_rows_iff.mpr there, held, has, ?_⟩
          exact conflict.imp Eq.symm fun both => ⟨both.1.symm, both.2.symm⟩

theorem step (taken : (system column signing wire).Step world action next) :
    next.Ordered column := by
  cases turn_of_step taken with
  | submitted served performed => exact ordered.submission served performed
  | asked | refused | taken | raised => exact ordered.idle (fun _ nothing => by cases nothing) rfl
  | first =>
      refine ordered.continue_ fun stage came => ?_
      obtain ⟨quote?, -, rfl⟩ := map_eq_ok.mp came
      cases quote? with
      | none => exact ⟨fun _ nothing => (by cases nothing), rfl⟩
      | some => exact ⟨fun _ nothing => (by cases nothing), rfl⟩
  | @paid request proof job quote =>
      have paid : (world.suspend request (.paid job quote proof)).Ordered column :=
        ordered.idle (fun _ nothing => by cases nothing) rfl
      exact { paid with }
  | retried =>
      refine ordered.continue_ fun stage came => ?_
      obtain ⟨payment, -, rfl⟩ := map_eq_ok.mp came
      exact ⟨fun _ nothing => (by cases nothing), rfl⟩
  | @read _ _ _ _ result =>
      refine ordered.continue_ fun stage came => ?_
      obtain ⟨latest, read, rfl⟩ := map_eq_ok.mp came
      cases result.externalPayment with
      | none => exact ⟨fun _ nothing => (by cases nothing), rfl⟩
      | some payment =>
          refine ⟨fun receipt coming => ?_, rfl⟩
          obtain rfl := Option.some.inj coming
          exact ready_auditReceipt read
  | @lookedUp request _ there =>
      have ready := ordered.ready request _ there
      refine ordered.continue_ fun stage came => ?_
      obtain ⟨known, -, rfl⟩ := map_eq_ok.mp came
      cases known with
      | true => exact ⟨ready, rfl⟩
      | false => exact ⟨ready, rfl⟩
  | @inserted request _ there served unused =>
      have ready := ordered.ready request _ there
      refine ordered.suspend ready (fun held has => ?_) fun other stage' _ there' => ?_
      · obtain rfl := Option.some.inj has
        exact unused
      · intro held has held' has' conflict
        obtain rfl := Option.some.inj has
        refine served ⟨(other, stage'), Table.mem_rows_iff.mpr there', held', has', ?_⟩
        exact conflict.imp Eq.symm fun both => ⟨both.1.symm, both.2.symm⟩
  | @saved request receipt kept there =>
      have held : Stage.held (.saved receipt kept
          ((world.settlements.get receipt.taskId).bind fun row =>
            changedFunding row.fundingSource)) = (Stage.recorded receipt kept).held := by
        cases kept <;> rfl
      have ready := ordered.ready request _ there
      refine ordered.suspend ready ?_ fun other stage' elsewhere => ?_
      · rw [held]
        exact ordered.free request _ there
      · rw [held]
        exact ordered.apart request other _ stage' (Ne.symm elsewhere) there
  | @committed request now receipt kept _ there =>
      have done : (world.suspend request .ended).Ordered column :=
        ordered.idle (fun _ nothing => by cases nothing) rfl
      cases kept with
      | true => exact { done with }
      | false =>
          have grown := done.grow (ordered.ready request _ there receipt rfl)
            (ordered.free request _ there receipt rfl) fun other stage' there' held has => ?_
          · exact { grown with }
          · change (world.requests.set request .ended).get other = some stage' at there'
            rw [Table.get_set] at there'
            split at there'
            · obtain rfl := Option.some.inj there'
              cases has
            case isFalse elsewhere =>
              exact ordered.apart request other _ stage' (Ne.symm elsewhere) there there' receipt
                rfl held has

end World.Ordered

theorem ordered_of_reachable (reachable : (system column signing wire).Reachable world) :
    world.Ordered column := by
  refine reachable.invariant (fun world initial => ?_) fun world action next _ ordered taken => ?_
  · obtain ⟨settlements, rfl⟩ := initial
    refine ⟨fun taskId => .refl _, Table.every_empty _, fun client stage waiting => ?_,
      fun request stage there => ?_, fun request stage there => ?_,
      fun request other stage stage' _ there => ?_⟩
    · cases waiting
    · cases there
    · cases there
    · cases there
  · exact ordered.step taken

end TrustChain.X402
