import TrustChain.Service.Effects

/-!
# Only the buyer confirms progress

A submission stores the confirmation status of its body. In the runs in which no submission
arrives confirmed, every confirmed receipt has been confirmed by the buyer of its settlement, and
the percentage that is paid out without such a confirmation is zero.
-/

namespace TrustChain.Service

open Library

/-- The receipt that an action stores. -/
def Action.submission : Action → Option ProgressReceipt
  | .request _ call => call.submission
  | .setPauses _ => none

/-- Whether an action asks for the confirmation of a receipt of a task. -/
def Action.confirms (taskId : TaskId) (receiptId : ReceiptId) : Action → Bool
  | .request _ call => call.confirms taskId receiptId
  | .setPauses _ => false

/-- A submission does not arrive confirmed. -/
def Action.Unconfirmed (action : Action) : Prop :=
  ∀ progress ∈ action.submission, progress.confirmationStatus ≠ .confirmed

/-- The buyer of a task confirms one of its receipts, one by one or by timeout. -/
def BuyerConfirms (taskId : TaskId) (receiptId : ReceiptId) (world : World) (action : Action)
    (next : World) : Prop :=
  action.confirms taskId receiptId = true ∧
  (∃ request call, action = .request request call ∧
    ∃ settlement ∈ world.db.settlements.get taskId,
      request.actor = some settlement.clientAgentId) ∧
  (∃ before ∈ world.db.progress.get receiptId,
    before.taskId = taskId ∧ before.confirmationStatus ≠ .confirmed) ∧
  ∃ after ∈ next.db.progress.get receiptId,
    after.taskId = taskId ∧ after.confirmationStatus = .confirmed

/-! ## Every request -/

section Effects

variable {request : Request} {db : Db} {call : Call} {evidence : Evidence}
  {receiptId : ReceiptId} {row : ProgressReceipt}

/-- A receipt that was not confirmed just now is as it was. -/
theorem confirmAll_get {table : Table ReceiptId ProgressReceipt} {now : ℚ}
    {receipts : List (ReceiptId × ProgressReceipt)}
    (there : (confirmAll table now receipts).get receiptId = some row) :
    table.get receiptId = some row ∨
      ∃ receipt ∈ receipts, receipt.1 = receiptId ∧ row = receipt.2.confirm now := by
  induction receipts generalizing table with
  | nil => exact .inl there
  | cons first rest ih =>
      rcases ih there with before | ⟨receipt, inside, named, is⟩
      · rcases Table.get_set_eq_some.mp before with ⟨same, is⟩ | ⟨-, before⟩
        · exact .inr ⟨first, List.mem_cons_self, same.symm, is⟩
        · exact .inl before
      · exact .inr ⟨receipt, List.mem_cons_of_mem first inside, named, is⟩

/-- A confirmed receipt was confirmed before the request, or the buyer has just confirmed it. -/
theorem Gathered.confirmed_before (gathered : Gathered request db call evidence)
    (binding : request.config.partyBinding = true)
    (unconfirmed : ∀ progress ∈ call.submission, progress.confirmationStatus ≠ .confirmed)
    (there : evidence.progress.get receiptId = some row)
    (confirmed : row.confirmationStatus = .confirmed) :
    db.progress.get receiptId = some row ∨ ∃ settlement before,
      call.confirms row.taskId receiptId = true ∧
      db.settlements.get row.taskId = some settlement ∧
      request.actor = some settlement.clientAgentId ∧
      db.progress.get receiptId = some before ∧ before.taskId = row.taskId ∧
      before.confirmationStatus ≠ .confirmed := by
  cases gathered with
  | submitted progress submits =>
      rcases Table.get_set_eq_some.mp there with ⟨-, rfl⟩ | ⟨-, there⟩
      · exact absurd confirmed (unconfirmed _ submits)
      · exact .inl there
  | confirmed taskId settlement receipts stored buyer listed =>
      rcases confirmAll_get there with before | ⟨receipt, inside, rfl, rfl⟩
      · exact .inl before
      · obtain ⟨found, rfl, pending, asked⟩ := listed receipt inside
        exact .inr ⟨settlement, receipt.2, asked, stored, buyer binding, found, rfl, pending⟩
  | _ => exact .inl there

end Effects

/-- Nothing is paid out for a task without a confirmed receipt. -/
theorem confirmedProgressPercent_eq_zero {db : Db} {taskId : TaskId}
    (none : ∀ receiptId row, db.progress.get receiptId = some row → row.taskId = taskId →
      row.confirmationStatus ≠ .confirmed) : confirmedProgressPercent db taskId = 0 := by
  have empty : (db.progress.rows.filter fun row =>
      row.2.taskId = taskId ∧ row.2.confirmationStatus = .confirmed) = [] := by
    apply List.filter_eq_nil_iff.mpr
    intro entry inside admitted
    obtain ⟨ofTask, confirmed⟩ := of_decide_eq_true admitted
    exact none entry.1 entry.2 (Table.mem_rows_iff.mp inside) ofTask confirmed
  rw [confirmedProgressPercent, empty]
  rfl

/-! ## Every run -/

section Runs

variable {config : Config} {world next start finish : World} {action : Action}
  {actions : List Action} {receiptId : ReceiptId} {row : ProgressReceipt}

theorem step_confirmed (binding : config.partyBinding = true) (wellFormed : world.db.WellFormed)
    (step : (system config).Step world action next) (unconfirmed : action.Unconfirmed)
    (there : next.db.progress.get receiptId = some row)
    (confirmed : row.confirmationStatus = .confirmed) :
    world.db.progress.get receiptId = some row ∨
      BuyerConfirms row.taskId receiptId world action next := by
  cases action with
  | setPauses pauses =>
      obtain rfl := Option.some.inj step
      exact .inl there
  | request request call =>
      obtain ⟨db, ran, rfl⟩ := step_request.mp step
      have gathered := (dispatch_effect wellFormed ran).2
      rcases gathered.confirmed_before binding unconfirmed there confirmed with before |
        ⟨settlement, before, asked, stored, buyer, found, ofTask, pending⟩
      · exact .inl before
      · exact .inr ⟨asked, ⟨request, call, rfl, settlement, stored, buyer⟩,
          ⟨before, found, ofTask, pending⟩, row, there, rfl, confirmed⟩

/-- The service in which no submission arrives confirmed. -/
abbrev unconfirmedSystem (config : Config) : TransitionSystem World Action :=
  (system config).restrict fun _ action => action.Unconfirmed

theorem only_buyer_confirms (binding : config.partyBinding = true)
    (initial : (system config).Init start)
    (run : (unconfirmedSystem config).Run start actions finish) :
    (∀ receiptId row, finish.db.progress.get receiptId = some row →
      row.confirmationStatus = .confirmed →
      (unconfirmedSystem config).Takes start actions finish
        (BuyerConfirms row.taskId receiptId)) ∧
    ∀ taskId, (∀ receiptId, ¬(unconfirmedSystem config).Takes start actions finish
        (BuyerConfirms taskId receiptId)) →
      confirmedProgressPercent finish.db taskId = 0 := by
  have confirmations : ∀ receiptId row, finish.db.progress.get receiptId = some row →
      row.confirmationStatus = .confirmed →
      (unconfirmedSystem config).Takes start actions finish
        (BuyerConfirms row.taskId receiptId) := by
    intro receiptId row there confirmed
    refine .of_onset (fun world => world.db.progress.get receiptId = some row)
      (fun world action next reachable step there => ?_) (.init initial) ?_ run there
    · have wellFormed := reachable_wellFormed reachable.of_restrict
      exact step_confirmed binding wellFormed step.1 step.2 there confirmed
    · have empty : start.db = {} := initial
      rw [empty]
      exact nofun
  refine ⟨confirmations, fun taskId unasked => confirmedProgressPercent_eq_zero ?_⟩
  intro receiptId row there ofTask confirmed
  exact unasked receiptId (ofTask ▸ confirmations receiptId row there confirmed)

end Runs

/-! ## Scenes -/

instance : DecidablePred Action.Unconfirmed := fun action =>
  inferInstanceAs (Decidable (∀ progress ∈ action.submission,
    progress.confirmationStatus ≠ .confirmed))

namespace Demo

def bound : Config := { partyBinding := true }

/-- A call of an authenticated agent. -/
def callAs (actor : IdentityId) (call : Call) : Action := .request { actor := some actor } call

def hash : String := "0000000000000000000000000000000000000000000000000000000000000000"

/-- The seller claims everything, with a confirmation status of its choice. -/
def claimed (confirmationStatus : ProgressConfirmationStatus) : ProgressReceipt where
  progressReceiptId := "p"
  taskId := "t"
  sellerIdentityId := seller
  progressPercent := 100
  claimedValuePercent := 100
  evidenceHash := hash
  runtimeLogHash := hash
  timestamp := 0
  sellerSignature := "signature"
  confirmationStatus

/-- Work on a task starts, and the seller submits progress. -/
def reported (confirmationStatus : ProgressConfirmationStatus) : List Action :=
  [call (.storeContract "t"),
    callAs buyer (.createSettlement { taskId := "t", clientAgentId := buyer, escrowAmount := 10 }),
    callAs buyer (.lockSettlement "t" seller), callAs seller (.startSettlement "t"),
    callAs seller (.submitProgressReceipt (claimed confirmationStatus))]

/-- The buyer confirms the progress. -/
def approved : Scene (performIf (fun _ action => action.Unconfirmed) bound) {} where
  actions := reported .pending ++ [callAs buyer (.confirmProgressReceipt "p")]
  possible := by decide +kernel

/-- The seller submits progress that is confirmed already. -/
def selfApproved : Scene (perform bound) {} where
  actions := reported .confirmed
  possible := by decide +kernel

end Demo

theorem only_buyer_confirms_approved :
    confirmedProgressPercent Demo.approved.world.db "t" = 100 ∧
      (unconfirmedSystem Demo.bound).Takes {} Demo.approved.actions Demo.approved.world
        (BuyerConfirms "t" "p") := by
  have run := scene_run_restricted Demo.approved
  have stored : ∃ row, Demo.approved.world.db.progress.get "p" = some row ∧ row.taskId = "t" ∧
      row.confirmationStatus = .confirmed :=
    ⟨(Demo.claimed .pending).confirm 0, by decide +kernel, rfl, rfl⟩
  obtain ⟨row, there, ofTask, confirmed⟩ := stored
  refine ⟨by decide +kernel, ?_⟩
  rw [← ofTask]
  exact (only_buyer_confirms rfl (init_empty Demo.bound) run).1 "p" row there confirmed

/-- The seller alone has confirmed its claim, and it would be paid out whole. -/
theorem not_only_buyer_confirms :
    (system Demo.bound).Run {} Demo.selfApproved.actions Demo.selfApproved.world ∧
      (∀ taskId receiptId, ¬(system Demo.bound).Takes {} Demo.selfApproved.actions
        Demo.selfApproved.world (BuyerConfirms taskId receiptId)) ∧
      Demo.selfApproved.world.db.progress.get "p" = some (Demo.claimed .confirmed) ∧
      confirmedProgressPercent Demo.selfApproved.world.db "t" = 100 := by
  refine ⟨scene_run Demo.selfApproved, ?_, by decide +kernel, by decide +kernel⟩
  rintro taskId receiptId ⟨before, action, after, _, _, whole, _, _, _, asked, -⟩
  have asks : ∃ action ∈ Demo.selfApproved.actions, action.confirms taskId receiptId = true :=
    ⟨action, whole ▸ by simp, asked⟩
  simp [Demo.selfApproved, Demo.reported, Demo.call, Demo.callAs, Action.confirms,
    Call.confirms] at asks

end TrustChain.Service
