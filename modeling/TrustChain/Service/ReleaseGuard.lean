import TrustChain.Service.Effects

/-!
# No payout without a success receipt

Every route of a settlement that pays the seller asks for a successful execution receipt of the
task first. The execution of an arbitration case does not ask. A run pays sellers only on such a
receipt exactly if every case that is executed leaves the seller nothing or has the receipt.
-/

namespace TrustChain.Service

open Library

/-- A settlement that has paid its seller. -/
def SettlementState.SellerPaid (row : SettlementState) : Prop :=
  (row.status = .settled ∨ row.status = .partiallySettled) ∧
    ∃ amount ∈ row.releasedAmount, 0 < amount

/-- A step pays the seller of a task that has no success receipt. -/
def PaysUnproven (world : World) (_ : Action) (next : World) : Prop :=
  ∃ taskId row, next.db.settlements.get taskId = some row ∧ row.SellerPaid ∧
    world.db.settlements.get taskId ≠ some row ∧ .success ∉ world.db.receipts taskId

/-- A case is executed only if its decision leaves the seller nothing, or on a success receipt. -/
def Call.ExecutesProven (db : Db) : Call → Prop
  | .executeArbitrationCase caseId =>
      ∀ case_ ∈ db.cases.get caseId, ∀ outcome ∈ case_.decidedOutcome,
        ∀ row ∈ db.settlements.get case_.taskId,
          (decisionSplit outcome case_.finalPartialPercent row.escrowAmount).2.1 ≤ 0 ∨
            .success ∈ db.receipts case_.taskId
  | _ => True

def Action.ExecutesProven (world : World) : Action → Prop
  | .request _ call => call.ExecutesProven world.db
  | .setPauses _ => True

/-! ## Amounts above the threshold of the guard -/

/-- A positive number of cents is above the threshold. -/
theorem not_le_of_cents {amount : ℚ} (positive : 0 < cents amount) :
    ¬cents amount ≤ 1 / 10 ^ 6 := by
  intro small
  have atLeast : (1 : ℤ) ≤ roundHalfEven (amount * 10 ^ 2) := by
    have numerator : (0 : ℚ) < roundHalfEven (amount * 10 ^ 2) := by
      have scaled : 0 < cents amount * 10 ^ 2 := by positivity
      rwa [cents, roundTo, div_mul_cancel₀ _ (by norm_num)] at scaled
    exact_mod_cast numerator
  have cent : (1 : ℚ) / 10 ^ 2 ≤ cents amount := by
    rw [cents, roundTo]
    gcongr
    exact_mod_cast atLeast
  norm_num at cent small
  linarith

theorem not_le_of_cents_pos {amount : ℚ} (positive : 0 < cents amount) :
    ¬amount ≤ 1 / 10 ^ 6 := by
  intro small
  have dust : cents (1 / 10 ^ 6) = 0 := by decide +kernel
  exact absurd positive (not_lt.mpr (dust ▸ roundTo_mono small))

/-! ## Every request -/

section Requests

variable {request : Request} {db next : Db} {call : Call} {core : Core} {taskId : TaskId}
  {row state : SettlementState} {settled refunded : ℚ} {target : TaskStatus}

/-- Only a resolution of the task stores a settlement that has paid its seller. -/
theorem Effect.resolves_of_paid (effect : Effect db call core)
    (there : core.settlements.get taskId = some row) (paid : row.SellerPaid)
    (new : db.settlements.get taskId ≠ some row) : call.resolves db = some taskId := by
  have elsewhere {key : TaskId} {stored : SettlementState}
      (there : (db.settlements.set key stored).get taskId = some row)
      (unpaid : stored.status ≠ .settled ∧ stored.status ≠ .partiallySettled) : False := by
    rcases Table.get_set_eq_some.mp there with ⟨-, rfl⟩ | ⟨-, there⟩
    · exact paid.1.elim unpaid.1 unpaid.2
    · exact new there
  cases effect with
  | settlementCreated body stored _ _ _ _ _ draft => exact (elsewhere there (by simp [draft])).elim
  | moved _ key old stored _ _ _ working =>
      refine (elsewhere there ?_).elim
      revert working
      cases stored.status <;> decide
  | cancelled key old stored _ _ cancelled => exact (elsewhere there (by simp [cancelled])).elim
  | disputed _ key old stored _ _ _ _ disputed => exact (elsewhere there (by simp [disputed])).elim
  | arbitrated _ key old stored _ _ _ arbitrated =>
      exact (elsewhere there (by simp [arbitrated])).elim
  | resolved _ key old stored _ _ _ _ resolving =>
      rw [Table.get_set] at there
      split at there
      case isTrue same => exact same ▸ resolving
      case isFalse => exact absurd there new
  | _ => exact absurd there new

theorem ensureSuccessReceipt_ok (required : request.config.settlementRequiresSuccessReceipt = true)
    (ensured : ensureSuccessReceipt request db taskId settled = .ok ())
    (above : ¬settled ≤ 1 / 10 ^ 6) : .success ∈ db.receipts taskId := by
  rw [ensureSuccessReceipt, require_eq_ok, required] at ensured
  exact (ensured.resolve_left nofun).resolve_left above

/-- What a resolution stores. -/
theorem finalize_stored (ran : finalize request db state target settled refunded = .ok next)
    (keyed : state.taskId = taskId) :
    next.settlements.get taskId = some (state.movedRow target request.now) := by
  obtain ⟨-, capacity, audits, -, rfl⟩ := finalize_ok ran
  exact keyed ▸ Table.get_set_self _ _ _

theorem finalizeFull_stored (ran : finalizeFull request db state = .ok next)
    (keyed : state.taskId = taskId) :
    next.settlements.get taskId = some (state.movedRow .settled request.now) := by
  obtain ⟨-, capacity, audits, profiles, -, rfl⟩ := finalizeFull_ok ran
  exact keyed ▸ Table.get_set_self _ _ _

/-- The routes of a settlement pay the seller only on a success receipt. -/
theorem dispatch_proven (wellFormed : db.WellFormed)
    (required : request.config.settlementRequiresSuccessReceipt = true)
    (ran : dispatch request db call = .ok next) (resolving : call.resolves db = some taskId)
    (executes : ∀ caseId, call ≠ .executeArbitrationCase caseId)
    (there : next.settlements.get taskId = some row) (paid : row.SellerPaid) :
    .success ∈ db.receipts taskId := by
  obtain ⟨ended, amount, released, positive⟩ := paid
  have stored {stored : SettlementState}
      (here : next.settlements.get taskId = some stored) : stored = row :=
    Option.some.inj (here.symm.trans there)
  cases call with
  | partialSettlement task percent =>
      obtain rfl := Option.some.inj resolving
      simp only [dispatch, partialSettlement, bind_eq_ok, require_eq_ok] at ran
      obtain ⟨_, -, state, opened, _, -, _, -, _, ensured, ran⟩ := ran
      obtain ⟨old, was, rfl⟩ := openTask_ok opened
      obtain rfl := stored (finalize_stored ran (wellFormed.keyed _ old was))
      obtain rfl := Option.some.inj released
      exact ensureSuccessReceipt_ok required ensured (not_le_of_cents positive)
  | regretSettlement task buyer =>
      obtain rfl := Option.some.inj resolving
      simp only [dispatch, regretSettlement, bind_eq_ok, require_eq_ok] at ran
      obtain ⟨state, opened, _, -, _, -, _, ensured, ran⟩ := ran
      obtain ⟨old, was, rfl⟩ := openTask_ok opened
      obtain rfl := stored (finalize_stored ran (wellFormed.keyed _ old was))
      obtain rfl := Option.some.inj released
      exact ensureSuccessReceipt_ok required ensured (not_le_of_cents positive)
  | buyerAcceptSettlement task sceneId =>
      obtain rfl := Option.some.inj resolving
      simp only [dispatch, buyerAcceptSettlement, bind_eq_ok, require_eq_ok,
        getSettlement_eq_ok] at ran
      obtain ⟨_, ⟨old, was, rfl⟩, _, -, _, -, _, -, _, -, _, -, _, -, _, ensured, ran⟩ := ran
      have same := (hintScene_sameTerms old.fromRow sceneId).1.taskId
      obtain rfl := stored (finalizeFull_stored ran (same.trans (wellFormed.keyed _ old was)))
      obtain rfl := Option.some.inj released
      exact ensureSuccessReceipt_ok required ensured (not_le_of_cents_pos positive)
  | autoConfirmSettlement task => exact absurd ran autoConfirmSettlement_refused
  | autoArbitrate task bundle =>
      obtain rfl := Option.some.inj resolving
      simp only [dispatch, autoArbitrate, bind_eq_ok, getSettlement_eq_ok] at ran
      obtain ⟨_, ⟨old, was, rfl⟩, _, -, arbitrated, -, _, ensured, ran⟩ := ran
      obtain rfl := stored (finalize_stored ran (wellFormed.keyed _ old was))
      refine ensureSuccessReceipt_ok required ensured fun small => ?_
      -- an amount under the threshold is refunded
      rw [if_pos small] at ended
      rcases ended with settled | settled
      · cases settled
      · cases settled
  | executeArbitrationCase caseId => exact absurd rfl (executes caseId)
  | _ => cases resolving

/-- The execution of a case stores a new settlement, with the amounts of the decision. -/
theorem executeArbitrationCase_stored (wellFormed : db.WellFormed) {caseId : CaseId}
    (ran : executeArbitrationCase db request caseId = .ok next) :
    ∃ case_ outcome old, db.cases.get caseId = some case_ ∧
      case_.decidedOutcome = some outcome ∧ db.settlements.get case_.taskId = some old ∧
      let stored := old.decidedRow
        (decisionSplit outcome case_.finalPartialPercent old.escrowAmount) request.now
      next.settlements.get case_.taskId = some stored ∧ old ≠ stored := by
  obtain ⟨case_, outcome, old, found, decided, was, capacity, before, -, rfl⟩ :=
    executeArbitrationCase_ok wellFormed.keyed ran
  refine ⟨case_, outcome, old, found, decided, was, Table.get_set_self _ _ _, fun same => ?_⟩
  have status : old.stage =
      (decisionSplit outcome case_.finalPartialPercent old.escrowAmount).1 := by
    rw [wellFormed.canonical _ old was]
    exact (congrArg SettlementState.status same).trans decidedRow_status
  rw [status] at before
  revert before
  cases outcome <;> simp [decisionSplit, canTransition, validTransitions, canonicalTaskStatus]

/-- What a decision pays the seller of a task it does not settle. -/
theorem decidedRow_sellerPaid {old : SettlementState} {outcome : ArbitrationVoteDecision}
    {final : Option ℚ} {now : ℚ} : (old.decidedRow
      (decisionSplit outcome final old.escrowAmount) now).SellerPaid ↔
        0 < (decisionSplit outcome final old.escrowAmount).2.1 := by
  constructor
  · rintro ⟨-, amount, released, positive⟩
    obtain rfl := Option.some.inj released
    exact positive
  · intro positive
    refine ⟨.inl ?_, _, rfl, positive⟩
    cases outcome with
    | buyerWins => exact absurd positive (lt_irrefl 0)
    | sellerWins => rfl
    | partialSplit => rfl

end Requests

/-! ## Every run -/

section Runs

variable {config : Config} {world next start finish : World} {action : Action}
  {actions : List Action}

/-- The condition on a step is exactly what keeps it from paying without a receipt. -/
theorem executesProven_iff (required : config.settlementRequiresSuccessReceipt = true)
    (wellFormed : world.db.WellFormed) (step : (system config).Step world action next) :
    action.ExecutesProven world ↔ ¬PaysUnproven world action next := by
  cases action with
  | setPauses pauses =>
      obtain rfl := Option.some.inj step
      exact iff_of_true trivial fun ⟨taskId, row, there, _, new, _⟩ => new there
  | request request call =>
      obtain ⟨db, ran, rfl⟩ := step_request.mp step
      by_cases executes : ∃ caseId, call = .executeArbitrationCase caseId
      · obtain ⟨caseId, rfl⟩ := executes
        obtain ⟨case_, outcome, old, found, decided, was, there, new⟩ :=
          executeArbitrationCase_stored wellFormed ran
        have condition : (Action.request request (.executeArbitrationCase caseId)).ExecutesProven
            world ↔ (decisionSplit outcome case_.finalPartialPercent old.escrowAmount).2.1 ≤ 0 ∨
              .success ∈ world.db.receipts case_.taskId := by
          simp only [Action.ExecutesProven, Call.ExecutesProven, found, decided, was,
            Option.mem_def, Option.some.injEq, forall_eq']
        rw [condition, ← not_iff_not, not_not, not_or, not_le]
        constructor
        · rintro ⟨positive, unproven⟩
          refine ⟨case_.taskId, _, there, decidedRow_sellerPaid.mpr positive, ?_, unproven⟩
          rw [was]
          exact fun same => new (Option.some.inj same)
        · rintro ⟨taskId, row, stored, paid, changed, unproven⟩
          have resolving := (dispatch_effect wellFormed ran).1.resolves_of_paid stored paid changed
          rw [Call.resolves, found] at resolving
          obtain rfl := Option.some.inj resolving
          obtain rfl := Option.some.inj (there.symm.trans stored)
          exact ⟨decidedRow_sellerPaid.mp paid, unproven⟩
      · have other : ∀ caseId, call ≠ .executeArbitrationCase caseId := fun caseId same =>
          executes ⟨caseId, same⟩
        have free : (Action.request request call).ExecutesProven world := by
          cases call with
          | executeArbitrationCase caseId => exact absurd rfl (other caseId)
          | _ => trivial
        refine iff_of_true free ?_
        rintro ⟨taskId, row, stored, paid, changed, unproven⟩
        have resolving := (dispatch_effect wellFormed ran).1.resolves_of_paid stored paid changed
        exact unproven (dispatch_proven wellFormed required ran resolving other stored paid)

/-- A run pays no seller without a success receipt exactly if every case that it executes leaves
the seller nothing or has the receipt. -/
theorem receipt_before_payout (required : config.settlementRequiresSuccessReceipt = true)
    (initial : (system config).Init start) (run : (system config).Run start actions finish) :
    ((system config).restrict fun world action => action.ExecutesProven world).Run
        start actions finish ↔
      ¬(system config).Takes start actions finish PaysUnproven := by
  refine TransitionSystem.Takes.restrict_iff_not (fun _ _ _ _ => step_unique) ?_ (.init initial) run
  intro world action next reachable step
  exact executesProven_iff required (reachable_wellFormed reachable) step

end Runs

/-! ## Scenes -/

instance (db : Db) : DecidablePred (Call.ExecutesProven db) := fun call => by
  unfold Call.ExecutesProven
  split <;> infer_instance

instance (world : World) : DecidablePred (Action.ExecutesProven world)
  | .request _ call => inferInstanceAs (Decidable (call.ExecutesProven world.db))
  | .setPauses _ => inferInstanceAs (Decidable True)

namespace Demo

/-- A task in dispute, over ten. -/
def contested : List Action :=
  call (.lockUsdc buyer 10) :: pledge "v" 10 ++ hire "t" (some "v") 10 ++ [call (.openDispute "t")]

/-- A case is decided by one arbitrator. -/
def judged (decision : ArbitrationVoteDecision) : List Action :=
  [call (.joinArbitrationPool "arbitrator"),
    call (.createArbitrationCase "c" {
      taskId := "t", openedBy := buyer, requiredArbitrators := 1 }),
    call (.assignArbitrators "c" 1),
    call (.castVote {
      caseId := "c", arbitratorIdentityId := "arbitrator", decision, partialPercent := none })]

def execution : Action := call (.executeArbitrationCase "c")

/-- The seller wins with a success receipt. -/
def wonProven : Scene (performIf (fun world action => action.ExecutesProven world) {}) {} where
  actions := contested ++ judged .sellerWins ++ [call (.storeReceipt "t" .success), execution]
  possible := by decide +kernel

/-- The seller wins, without any receipt. -/
def won : Scene (perform {}) {} where
  actions := contested ++ judged .sellerWins
  possible := by decide +kernel

/-- The decision is executed. -/
def wonUnproven : Scene (perform {}) {} := won.next execution (by decide +kernel)

/-- The settlement of a task that was won. -/
def wonRow : SettlementState where
  taskId := "t"
  escrowAmount := 10
  status := .settled
  clientAgentId := buyer
  workerAgentId := some seller
  releasedAmount := some 10
  refundedAmount := some 0
  releasedAt := some 0
  voucherId := some "v"

theorem wonRow_sellerPaid : wonRow.SellerPaid := ⟨.inl rfl, 10, rfl, by norm_num⟩

end Demo

theorem receipt_before_payout_won :
    ¬(system {}).Takes {} Demo.wonProven.actions Demo.wonProven.world PaysUnproven ∧
      Demo.wonProven.world.db.settlements.get "t" = some Demo.wonRow ∧ Demo.wonRow.SellerPaid := by
  have run := scene_run_restricted Demo.wonProven
  exact ⟨(receipt_before_payout rfl (init_empty {}) run.of_restrict).mp run, by decide +kernel,
    Demo.wonRow_sellerPaid⟩

/-- The execution of a case pays the seller of a task without any receipt. -/
theorem not_receipt_before_payout :
    ((({} : Config).settlementRequiresSuccessReceipt = true) ∧ (system {}).Init {}) ∧
      ∃ actions finish, (system {}).Run {} actions finish ∧
        (system {}).Takes {} actions finish PaysUnproven := by
  have run := scene_run Demo.won
  have step : (system {}).Step Demo.won.world Demo.execution Demo.wonUnproven.world :=
    Demo.won.performed Demo.execution _
  refine ⟨⟨rfl, init_empty {}⟩, _, _, run.snoc step, .last run step ?_⟩
  exact ⟨"t", Demo.wonRow, by decide +kernel, Demo.wonRow_sellerPaid, by decide +kernel,
    by decide +kernel⟩

end TrustChain.Service
