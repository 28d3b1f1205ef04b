import TrustChain.X402.Books

/-!
# Every payment is audited

Along runs that keep the books, every payment of a request that has ended is carried by one
receipt of its task, and the settlement of the task says where the funds came from.
-/

namespace TrustChain.X402

open Library Service Receipts

section Steps

variable {column : DateTime → DateTime} {signing : Signing} {wire : Wire} {start world next : World}
  {request : RequestNo} {action : Action} {actions : List Action}

/-! ## The books are kept -/

theorem World.Booked.submission (booked : world.Booked) {action : Receipts.Action}
    {receipts : Receipts.World}
    (step : Receipts.perform column signing world.receipts action = some receipts)
    (kept : Action.Kept world (.submission action)) :
    World.Booked { world with receipts } := by
  cases action with
  | ask client context route receipt =>
      rcases perform_ask step with rfl | ⟨checked, -, rfl⟩
      · exact booked
      · exact { booked with }
  | lookUp client =>
      rcases perform_lookUp step with rfl | ⟨receipt, -, rfl⟩
      · exact { booked with }
      · exact { booked with }
  | insert client =>
      rcases perform_insert step with rfl | ⟨receipt, rows, waiting, inserted, rfl⟩
      · exact { booked with }
      · simp only [Receipts.insert, require_bind_eq_ok] at inserted
        obtain ⟨unused, inserted⟩ := inserted
        obtain rfl := Except.ok.inj inserted
        have fresh : world.receipts.rows.get receipt.receiptId = none :=
          Option.not_isSome_iff_eq_none.mp fun taken => unused (.inl taken)
        exact { booked.grow fresh (kept _ waiting) with }

theorem World.Booked.step (booked : world.Booked) (ordered : world.Ordered column)
    (taken : (system column signing wire).Step world action next) (kept : action.Kept world) :
    next.Booked := by
  cases turn_of_step taken with
  | submitted _ performed => exact booked.submission performed kept
  | @asked request _ _ _ there =>
      have before := booked.progress request
      rw [there] at before
      exact booked.suspend before
  | @refused request _ _ there =>
      have before := booked.progress request
      rw [there] at before
      exact booked.suspend before.ended
  | @first request _ _ there =>
      have before := booked.progress request
      rw [there] at before
      refine booked.continue_ (fun stage came => ?_) fun _ _ => before
      obtain ⟨quote?, -, rfl⟩ := map_eq_ok.mp came
      cases quote? with
      | none => exact before
      | some => exact before
  | @paid _ _ job quote there =>
      obtain ⟨stated, new, uncopied⟩ := kept (job, quote) (by rw [there]; rfl)
      exact booked.pay there stated new uncopied
  | @retried request _ _ _ _ there =>
      have before := booked.progress request
      rw [there] at before
      obtain ⟨record, made, owes⟩ := before
      refine booked.continue_ (fun stage came => ?_) fun error failed => ?_
      · obtain ⟨payment, made', rfl⟩ := map_eq_ok.mp came
        obtain rfl := Except.ok.inj (made.symm.trans made')
        exact owes
      · rw [made] at failed
        cases failed
  | @read request _ _ job result there =>
      have before := booked.progress request
      rw [there] at before
      obtain ⟨latest, read⟩ := exists_readLatest ordered.stored job.taskId
      refine booked.continue_ (fun stage came => ?_) fun error failed => ?_
      · obtain ⟨latest, -, rfl⟩ := map_eq_ok.mp came
        obtain ⟨statusCode, body, record⟩ := result
        cases record with
        | none => exact Clear.ended before
        | some record => exact before
      · rw [read] at failed
        cases failed
  | @lookedUp request receipt there =>
      have before := booked.progress request
      rw [there] at before
      have fresh := kept receipt (by rw [there]; rfl)
      have absent : Receipts.lookUp world.receipts.rows receipt = .ok false := by
        rw [Receipts.lookUp, fresh]
      rw [absent]
      exact booked.suspend before
  | @taken _ receipt there used => exact absurd used (kept receipt (by rw [there]; rfl))
  | @inserted request _ there =>
      have before := booked.progress request
      rw [there] at before
      exact booked.suspend ⟨rfl, before⟩
  | @saved request _ _ there =>
      have before := booked.progress request
      rw [there] at before
      exact booked.suspend before
  | @committed request _ receipt _ _ there =>
      have before := booked.progress request
      rw [there] at before
      obtain ⟨rfl, -⟩ := before
      refine booked.commit there (Option.not_isSome_iff_eq_none.mp fun there' => ?_)
      exact ordered.free request _ there receipt rfl (.inl there')
  | @raised request stage there =>
      have before := booked.progress request
      rw [there] at before
      exact booked.suspend (before.clear (kept stage there)).ended

/-! ## Where the funds came from -/

/-- A payment was among the funds. -/
def FundedWith (fundingSource : String) : Prop :=
  fundingSource = "x402" ∨ fundingSource = "hybrid"

/-- A settlement but for the source of its funds and the time of its last update. -/
def FundedSettlement.rest (row : FundedSettlement) : SettlementState :=
  { row.settlement with updatedAt := 0 }

/-- What a request is about to save funds the settlement, or it is funded already. -/
def Decides (settlements : Table TaskId FundedSettlement) (taskId : TaskId)
    (fundingSource : Option String) : Prop :=
  ∀ row, settlements.get taskId = some row →
    (∀ source ∈ fundingSource, FundedWith source) ∧
      (fundingSource = none → FundedWith row.fundingSource)

structure World.Funded (world : World) : Prop where
  decided : ∀ request receipt kept fundingSource,
    world.requests.get request = some (.saved receipt kept fundingSource) →
    Decides world.settlements receipt.taskId fundingSource
  funded : ∀ entry ∈ world.stored, ∀ payment, (entry.1, payment) ∈ world.payments →
    ∀ row, world.settlements.get payment.taskId = some row → FundedWith row.fundingSource

section Funds

variable {settlements : Table TaskId FundedSettlement} {taskId other : TaskId}
  {fundingSource : Option String} {now : ℚ} {row : FundedSettlement}

theorem fundedWith_fundedBy (source : String) : FundedWith (fundedBy source) := by
  unfold fundedBy
  split_ifs
  · exact .inl rfl
  · exact .inl rfl
  · exact .inr rfl

theorem decides_changedFunding :
    Decides settlements taskId
      ((settlements.get taskId).bind fun row => changedFunding row.fundingSource) := by
  intro row there
  rw [there, Option.bind_some, changedFunding]
  split
  case isTrue same => exact ⟨fun _ nothing => (by cases nothing), fun _ => same ▸ fundedWith_fundedBy _⟩
  case isFalse =>
    refine ⟨fun source saved => ?_, fun nothing => by cases nothing⟩
    obtain rfl := Option.some.inj saved
    exact fundedWith_fundedBy _

theorem saveFunding_some {source : String} {old : FundedSettlement}
    (was : settlements.get taskId = some old) :
    saveFunding settlements taskId (some source) now = settlements.set taskId (old.fund source now) := by
  simp only [saveFunding, was]

theorem saveFunding_missing (missing : settlements.get taskId = none) :
    saveFunding settlements taskId fundingSource now = settlements := by
  cases fundingSource <;> simp only [saveFunding, missing]

/-- The row of a settlement after a save is the one before, or a funded one. -/
theorem saveFunding_cases (decides : Decides settlements taskId fundingSource)
    (there : (saveFunding settlements taskId fundingSource now).get other = some row) :
    ∃ old, settlements.get other = some old ∧
      (row.fundingSource = old.fundingSource ∨ FundedWith row.fundingSource) := by
  cases fundingSource with
  | none => exact ⟨row, there, .inl rfl⟩
  | some source =>
      cases was : settlements.get taskId with
      | none =>
          rw [saveFunding_missing was] at there
          exact ⟨row, there, .inl rfl⟩
      | some old =>
          rw [saveFunding_some was] at there
          rcases Table.get_set_eq_some.mp there with ⟨here, rfl⟩ | ⟨-, there⟩
          · exact ⟨old, here ▸ was, .inr ((decides old was).1 source rfl)⟩
          · exact ⟨row, there, .inl rfl⟩

/-- The task of the save is funded afterwards. -/
theorem saveFunding_self (decides : Decides settlements taskId fundingSource)
    (there : (saveFunding settlements taskId fundingSource now).get taskId = some row) :
    FundedWith row.fundingSource := by
  cases fundingSource with
  | none => exact (decides row there).2 rfl
  | some source =>
      cases was : settlements.get taskId with
      | none =>
          rw [saveFunding_missing was, was] at there
          cases there
      | some old =>
          rw [saveFunding_some was, Table.get_set_self] at there
          obtain rfl := Option.some.inj there
          exact (decides old was).1 source rfl

theorem rest_saveFunding (taskId other : TaskId) (fundingSource : Option String) (now : ℚ) :
    ((saveFunding settlements taskId fundingSource now).get other).map FundedSettlement.rest =
      (settlements.get other).map FundedSettlement.rest := by
  cases fundingSource with
  | none => rfl
  | some source =>
      cases was : settlements.get taskId with
      | none => rw [saveFunding_missing was]
      | some old =>
          rw [saveFunding_some was, Table.get_set]
          split
          case isTrue here =>
            rw [here, was]
            rfl
          case isFalse => rfl

end Funds

namespace World.Funded

variable (funded : world.Funded)

include funded

/-- A request goes on to a stage at which it saves nothing. -/
theorem suspend {stage : Stage}
    (unsaved : ∀ receipt kept fundingSource, stage ≠ .saved receipt kept fundingSource) :
    (world.suspend request stage).Funded :=
  { funded with
    decided := fun other receipt kept fundingSource there => by
      change (world.requests.set request stage).get other = _ at there
      rcases Table.get_set_eq_some.mp there with ⟨-, is⟩ | ⟨-, there⟩
      · exact absurd is.symm (unsaved receipt kept fundingSource)
      · exact funded.decided other receipt kept fundingSource there }

theorem continue_ {outcome : Except HttpError Stage}
    (unsaved : ∀ stage, outcome = .ok stage →
      ∀ receipt kept fundingSource, stage ≠ .saved receipt kept fundingSource) :
    (world.continue request outcome).Funded := by
  cases ran : outcome with
  | ok stage => exact funded.suspend (unsaved stage ran)
  | error => exact funded.suspend fun _ _ _ => Stage.noConfusion

theorem saveSettlement {receipt : ExecutionReceipt} {kept : Bool} :
    (world.suspend request (.saved receipt kept
      ((world.settlements.get receipt.taskId).bind fun row =>
        changedFunding row.fundingSource))).Funded :=
  { funded with
    decided := fun other receipt' kept' fundingSource there => by
      change (world.requests.set request _).get other = _ at there
      rcases Table.get_set_eq_some.mp there with ⟨-, is⟩ | ⟨-, there⟩
      · cases is
        exact decides_changedFunding
      · exact funded.decided other receipt' kept' fundingSource there }

/-- A request that has just paid has no receipt yet. -/
theorem pay {job : Job} {quote : Quote} {proof : PaymentProof}
    (unfiled : ∀ id, (request, id) ∉ world.stored) :
    World.Funded { world.suspend request (.paid job quote proof) with
      payments := (request, .of job quote proof) :: world.payments } where
  decided := (funded.suspend fun _ _ _ => Stage.noConfusion).decided
  funded entry inside payment paid row there := by
    rcases List.mem_cons.mp paid with same | paid
    · obtain ⟨here, -⟩ := Prod.mk.inj same
      have filed : (request, entry.2) ∈ world.stored := here ▸ inside
      exact absurd filed (unfiled entry.2)
    · exact funded.funded entry inside payment paid row there

theorem commit {receipt : ExecutionReceipt} {fundingSource : Option String} {now : ℚ}
    (booked : world.Booked)
    (there : world.requests.get request = some (.saved receipt false fundingSource))
    (receipts : Receipts.World) :
    World.Funded { world.suspend request .ended with
      receipts
      settlements := saveFunding world.settlements receipt.taskId fundingSource now
      stored := (request, receipt.receiptId) :: world.stored } := by
  have decides := funded.decided request receipt false fundingSource there
  have owed := booked.progress request
  rw [there] at owed
  obtain ⟨-, ⟨payment, paid, onTask, -⟩, -⟩ := owed
  refine ⟨fun other receipt' kept' fundingSource' there' row found => ?_,
    fun entry inside payment' paid' row found => ?_⟩
  · have suspended : (world.suspend request .ended).Funded :=
      funded.suspend fun _ _ _ => Stage.noConfusion
    have waiting := suspended.decided other receipt' kept' fundingSource' there'
    obtain ⟨old, was, same | new⟩ := saveFunding_cases decides found
    · rw [same]
      exact waiting old was
    · exact ⟨(waiting old was).1, fun _ => new⟩
  · rcases List.mem_cons.mp inside with rfl | inside
    · have same : payment' = payment := by
        have entries := List.inj_on_of_nodup_map booked.once paid' paid rfl
        exact (Prod.mk.inj entries).2
      rw [same, onTask] at found
      exact saveFunding_self decides found
    · obtain ⟨old, was, same | new⟩ := saveFunding_cases decides found
      · rw [same]
        exact funded.funded entry inside payment' paid' old was
      · exact new

theorem step (booked : world.Booked)
    (taken : (system column signing wire).Step world action next) :
    next.Funded := by
  cases turn_of_step taken with
  | submitted => exact { funded with }
  | asked | refused | taken | inserted | raised =>
      exact funded.suspend fun _ _ _ => Stage.noConfusion
  | first =>
      refine funded.continue_ fun stage came => ?_
      obtain ⟨quote?, -, rfl⟩ := map_eq_ok.mp came
      cases quote? <;> exact fun _ _ _ => Stage.noConfusion
  | @paid request _ _ _ there =>
      have clear := booked.progress request
      rw [there] at clear
      exact funded.pay clear.2
  | retried =>
      refine funded.continue_ fun stage came => ?_
      obtain ⟨payment, -, rfl⟩ := map_eq_ok.mp came
      exact fun _ _ _ => Stage.noConfusion
  | @read _ _ _ _ result =>
      refine funded.continue_ fun stage came => ?_
      obtain ⟨latest, -, rfl⟩ := map_eq_ok.mp came
      cases result.externalPayment <;> exact fun _ _ _ => Stage.noConfusion
  | lookedUp =>
      refine funded.continue_ fun stage came => ?_
      obtain ⟨known, -, rfl⟩ := map_eq_ok.mp came
      cases known <;> exact fun _ _ _ => Stage.noConfusion
  | saved => exact funded.saveSettlement
  | @committed request _ _ _ _ there =>
      have owed := booked.progress request
      rw [there] at owed
      obtain ⟨rfl, -⟩ := owed
      exact funded.commit booked there _

end World.Funded

/-- The settlements but for their funds are those at the start. -/
def World.SameSettlements (start world : World) : Prop :=
  ∀ taskId, (world.settlements.get taskId).map FundedSettlement.rest =
    (start.settlements.get taskId).map FundedSettlement.rest

theorem continue_settlements (outcome : Except HttpError Stage) :
    (world.continue request outcome).settlements = world.settlements := by
  cases outcome <;> rfl

/-- A request changes the settlement when it commits, and no other. -/
theorem World.SameSettlements.step (same : World.SameSettlements start world)
    (taken : (system column signing wire).Step world action next) :
    World.SameSettlements start next := by
  intro taskId
  rw [← same taskId]
  cases turn_of_step taken with
  | committed => exact rest_saveFunding ..
  | first | retried | read | lookedUp => rw [continue_settlements]
  | _ => rfl

/-! ## Every run -/

/-- The row carries the payment. -/
def World.CarriedBy (world : World) (payment : Payment) (receiptId : ReceiptId) : Prop :=
  ∃ row, world.receipts.rows.get receiptId = some row ∧ Carries (recordOf row) payment

/-- How payments are audited at a moment of a run from `start`. -/
structure World.Audited (start world : World) : Prop where
  exactlyOne : ∀ request payment, (request, payment) ∈ world.payments →
    world.requests.get request = some .ended → ∃! receiptId, world.CarriedBy payment receiptId
  onItsTask : ∀ request payment, (request, payment) ∈ world.payments →
    world.requests.get request = some .ended → ∀ receiptId row,
      world.receipts.rows.get receiptId = some row → Carries (recordOf row) payment →
      row.taskId = payment.taskId
  consecutive : world.receipts.rows.Numbered
  onlyPaid : ∀ request receiptId, (request, receiptId) ∈ world.stored →
    ∃ payment, (request, payment) ∈ world.payments
  funded : ∀ request payment, (request, payment) ∈ world.payments →
    world.requests.get request = some .ended → ∀ row,
      world.settlements.get payment.taskId = some row → FundedWith row.fundingSource
  otherwise : World.SameSettlements start world

theorem World.Booked.audited (booked : world.Booked) (ordered : world.Ordered column)
    (funded : world.Funded) (same : World.SameSettlements start world) :
    World.Audited start world := by
  have filed (request : RequestNo) (payment : Payment) (paid : (request, payment) ∈ world.payments)
      (ended : world.requests.get request = some .ended) :
      ∃ id row, (request, id) ∈ world.stored ∧ world.receipts.rows.get id = some row ∧
        row.taskId = payment.taskId ∧ Carries (recordOf row) payment := by
    have progress := booked.progress request
    rw [ended] at progress
    obtain ⟨id, stored⟩ := progress payment paid
    obtain ⟨other, row, paid', found, onTask, carries⟩ := booked.filed _ stored
    obtain rfl : other = payment := by
      have entries := List.inj_on_of_nodup_map booked.once paid' paid rfl
      exact (Prod.mk.inj entries).2
    exact ⟨id, row, stored, found, onTask, carries⟩
  have unique (request : RequestNo) (payment : Payment)
      (paid : (request, payment) ∈ world.payments) (id other : ReceiptId)
      (stored : (request, id) ∈ world.stored) (row : ReceiptRow)
      (found : world.receipts.rows.get other = some row)
      (carries : Carries (recordOf row) payment) : other = id := by
    have stored' := booked.carried other row found _ paid carries
    have entries := List.inj_on_of_nodup_map booked.single stored' stored rfl
    exact (Prod.mk.inj entries).2
  refine ⟨fun request payment paid ended => ?_, fun request payment paid ended id row found carries => ?_,
    ordered.numbered, fun request id stored => ?_, fun request payment paid ended row found => ?_,
    same⟩
  · obtain ⟨id, row, stored, found, -, carries⟩ := filed request payment paid ended
    refine ⟨id, ⟨row, found, carries⟩, fun other carried => ?_⟩
    obtain ⟨row', found', carries'⟩ := carried
    exact unique request payment paid id other stored row' found' carries'
  · obtain ⟨id', row', stored, found', onTask, -⟩ := filed request payment paid ended
    obtain rfl := unique request payment paid id' id stored row found carries
    obtain rfl := Option.some.inj (found.symm.trans found')
    exact onTask
  · obtain ⟨payment, row, paid, -⟩ := booked.filed _ stored
    exact ⟨payment, paid⟩
  · obtain ⟨id, row', stored, -⟩ := filed request payment paid ended
    exact funded.funded _ stored payment paid row found

theorem start_booked (initial : (system column signing wire).Init start) : start.Booked := by
  obtain ⟨settlements, rfl⟩ := initial
  refine ⟨fun request => ⟨fun _ => List.not_mem_nil, fun _ => List.not_mem_nil⟩, .nil, .nil,
    fun entry inside => ?_, fun id row found => ?_, .nil⟩
  · cases inside
  · cases found

theorem start_funded (initial : (system column signing wire).Init start) : start.Funded := by
  obtain ⟨settlements, rfl⟩ := initial
  refine ⟨fun request receipt kept fundingSource there => ?_, fun entry inside => ?_⟩
  · cases there
  · cases inside

/-- In every state of a run that keeps the books, the payments are audited. -/
theorem payments_audited (initial : (system column signing wire).Init start)
    (run : ((system column signing wire).restrict fun world action => action.Kept world).Run start
      actions world) : World.Audited start world := by
  have kept : world.Booked ∧ world.Funded ∧ World.SameSettlements start world := by
    refine run.preserves_restricted (fun state action next reached before taken kept => ?_)
      (.init initial) ⟨start_booked initial, start_funded initial, fun _ => rfl⟩
    obtain ⟨booked, funded, same⟩ := before
    exact ⟨booked.step (ordered_of_reachable reached) taken kept, funded.step booked taken,
      same.step taken⟩
  have reached := run.of_restrict
  have ordered := ordered_of_reachable ((TransitionSystem.Reachable.init initial).run reached)
  exact kept.1.audited ordered kept.2.1 kept.2.2

end Steps

/-! ## A payment of one dollar -/

namespace Demo

def address : String := "https://a.io/x"

/-- What the libraries make of the texts below. -/
def wire : Wire where
  urlparse url := if url = address then some ("https", "a.io", "a.io", "/x") else none
  privateAddress _ := none
  decode _ := none
  loads _ := none
  loadsBody _ := some (.object [("accepts", .array [.object [("maxAmountRequired", .string "1")]])])
  validate _ := some { accepts := [{ maxAmountRequired := "1" }] }

/-- `{"accepts": [{"maxAmountRequired": "1"}]}`, of which the first byte matters here. -/
def required : Response := { statusCode := 402, body := [123] }

def granted : Response := { statusCode := 200 }

def proof : PaymentProof := { txHash := some "0x1", amountUsdc := .finite 1 }

def context : X402Context where
  owns _ := true
  contracts _ := true

def body : X402PayAndFetchBody := { taskId := "t", agentId := "a", url := address }

def signing : Signing where
  sign _ := ""
  verify _ _ := false

/-- One task with a settlement out of internal funds. -/
def start : World where
  settlements := Table.empty.set "t"
    { settlement := { taskId := "t", escrowAmount := 5, clientAgentId := "b" } }

abbrev step : World → Action → Option World := perform DateTime.utc signing wire

/-- Perform an action that keeps the books. -/
def stepKept (world : World) (action : Action) : Option World :=
  if action.Kept world then step world action else none

/-- The payment goes through, and its receipt is stored. -/
def audited : Scene stepKept start where
  actions := [.ask 0 context body, .first 0 required, .pay 0 proof, .retry 0 granted,
    .readLatest 0 "r" 0, .lookUp 0, .insert 0, .saveSettlement 0, .commit 0 1]
  possible := by decide +kernel

/-- The resource does not answer once it is paid. -/
def lost : Scene step start where
  actions := [.ask 0 context body, .first 0 required, .pay 0 proof, .raise 0]
  possible := by decide +kernel

theorem restricted_of_stepKept (world : World) (action : Action) (next : World)
    (taken : stepKept world action = some next) :
    ((system DateTime.utc signing wire).restrict fun world action => action.Kept world).Step world
      action next := by
  unfold stepKept at taken
  split at taken
  case isTrue kept => exact ⟨taken, kept⟩
  case isFalse => cases taken

theorem start_initial : (system DateTime.utc signing wire).Init start := ⟨_, rfl⟩

def isEnded : Option Stage → Bool
  | some .ended => true
  | _ => false

theorem eq_of_isEnded {stage : Option Stage} (ended : isEnded stage = true) :
    stage = some .ended := by
  unfold isEnded at ended
  split at ended
  · rfl
  · cases ended

end Demo

theorem payments_audited_once : World.Audited Demo.start Demo.audited.world :=
  payments_audited Demo.start_initial (Demo.audited.run Demo.restricted_of_stepKept)

/-- A payment without a receipt. -/
theorem not_payments_audited :
    (system DateTime.utc Demo.signing Demo.wire).Run Demo.start Demo.lost.actions Demo.lost.world ∧
      ¬World.Audited Demo.start Demo.lost.world := by
  refine ⟨Demo.lost.run fun _ _ _ => id, fun audited => ?_⟩
  have paid : (0, Payment.mk "t" (some "0x1") (.finite 1) "" Demo.address) ∈
      Demo.lost.world.payments := by
    decide +kernel
  have ended : Demo.lost.world.requests.get 0 = some .ended :=
    Demo.eq_of_isEnded (by decide +kernel)
  obtain ⟨receiptId, ⟨row, found, -⟩, -⟩ := audited.exactlyOne 0 _ paid ended
  have empty : Demo.lost.world.receipts.rows.rows.length = 0 := by decide +kernel
  have inside := Table.mem_rows_iff.mpr found
  rw [List.length_eq_zero_iff.mp empty] at inside
  cases inside

end TrustChain.X402
