import TrustChain.Service.Routes

/-!
# What a request does

Every successful request, with what it leaves in the tables that hold money, and with what it
leaves in the tables that decide how a settlement is split.
-/

namespace TrustChain.Service

open Library

/-! ## Well-formed databases -/

def Percentage (percent : ℚ) : Prop := 0 ≤ percent ∧ percent ≤ 100

/-- A settlement is stored under its task and with a canonical status, and percentages are
percentages. -/
structure Db.WellFormed (db : Db) : Prop where
  keyed : db.settlements.Every fun taskId row => row.taskId = taskId
  canonical : db.settlements.Every fun _ row => row.stage = row.status
  claims : db.progress.Every fun _ row => Percentage row.claimedValuePercent
  votes : ∀ vote ∈ db.votes, ∀ percent ∈ vote.partialPercent, Percentage percent
  cases : db.cases.Every fun _ row => ∀ percent ∈ row.finalPartialPercent, Percentage percent

/-! ## The tables that hold money -/

/-- The tables that hold money, and the record of the resolutions. -/
structure Core where
  capacity : Table IdentityId Capacity
  vouchers : Table VoucherId Voucher
  settlements : Table TaskId SettlementState
  resolutions : List Resolution

def Db.core (db : Db) : Core := ⟨db.capacity, db.vouchers, db.settlements, db.resolutions⟩

/-- A missing row reads as an empty one. -/
def Core.credits (core : Core) (identityId : IdentityId) : Capacity :=
  (core.capacity.get identityId).getD {}

theorem credits_set (capacity : Table IdentityId Capacity) (owner identityId : IdentityId)
    (cap : Capacity) : ((capacity.set owner cap).get identityId).getD {} =
      if identityId = owner then cap else (capacity.get identityId).getD {} := by
  rw [Table.get_set]
  split <;> rfl

theorem credits_of_get {db : Db} {identityId : IdentityId} {cap : Capacity}
    (there : db.capacity.get identityId = some cap) : db.credits identityId = cap := by
  rw [Db.credits, there]
  rfl

/-- The statuses that work on a task goes through. -/
def TaskStatus.Working (status : TaskStatus) : Prop :=
  status ∈ [TaskStatus.pending, .accepted, .inProgress, .progressSubmitted, .progressConfirmed,
    .delivered]

instance : DecidablePred TaskStatus.Working := fun _ => inferInstanceAs (Decidable (_ ∈ _))

/-- How an escrow is split. A whole release leaves the amount as it is; the others round:
a share of it, or all of it to the seller. -/
inductive Split (whole : Prop) (escrowAmount : ℚ) : ℚ → ℚ → Prop
  | whole : whole → Split whole escrowAmount escrowAmount 0
  | share (percent : ℚ) : ¬whole → Percentage percent →
      Split whole escrowAmount (percentSplit escrowAmount percent).1
        (percentSplit escrowAmount percent).2
  | rounded : ¬whole → Split whole escrowAmount (cents escrowAmount) 0

namespace Call

def IsLock : Call → Prop
  | .lockUsdc .. => True
  | _ => False

/-- The task that a call resolves. -/
def resolves (db : Db) : Call → Option TaskId
  | .partialSettlement taskId _ | .regretSettlement taskId _ | .autoArbitrate taskId _
  | .buyerAcceptSettlement taskId _ | .autoConfirmSettlement taskId => some taskId
  | .executeArbitrationCase caseId => (db.cases.get caseId).map ArbitrationCase.taskId
  | _ => none

theorem not_isLock_of_resolves {db : Db} {call : Call} {taskId : TaskId}
    (resolving : call.resolves db = some taskId) : ¬call.IsLock := by
  cases call with
  | lockUsdc => cases resolving
  | _ => exact id

/-- Whether a call releases the whole escrow to the seller without rounding. -/
def releasesWhole : Call → Bool
  | .buyerAcceptSettlement .. | .autoConfirmSettlement _ => true
  | _ => false

end Call

/-- The task that an action resolves. -/
def Action.resolves (world : World) : Action → Option TaskId
  | .request _ call => call.resolves world.db
  | .setPauses _ => none

/-- The effect of a successful request on the tables that hold money. -/
inductive Effect (db : Db) : Call → Core → Prop
  | quiet (call : Call) : ¬call.IsLock → Effect db call db.core
  | locked (identityId : IdentityId) (amount : ℚ) : 0 < amount →
      Effect db (.lockUsdc identityId amount)
        { db.core with
          capacity := db.capacity.set identityId ((db.credits identityId).lock amount) }
  | released (identityId : IdentityId) (amount : ℚ) (cap : Capacity) :
      db.capacity.get identityId = some cap → 0 < amount → amount ≤ cap.availableCredits + epsilon →
      Effect db (.releaseUnused identityId amount)
        { db.core with capacity := db.capacity.set identityId (cap.release amount) }
  | voucherCreated (voucherId : VoucherId) (body : CreateVoucherRequest) :
      db.vouchers.get voucherId = none → 0 < body.billCreditAmount →
      Effect db (.createVoucher voucherId body)
        { db.core with vouchers := db.vouchers.set voucherId body.voucher }
  | voucherAccepted (call : Call) (voucherId : VoucherId) (row : Voucher) (cap : Capacity) :
      ¬call.IsLock → db.vouchers.get voucherId = some row → row.status = .created →
      db.capacity.get row.buyerIdentityId = some cap → row.billCreditAmount ≤ cap.availableCredits →
      Effect db call
        { db.core with
          capacity := db.capacity.set row.buyerIdentityId (cap.reserve row.billCreditAmount)
          vouchers := db.vouchers.set voucherId { row with status := .accepted } }
  | voucherRejected (call : Call) (voucherId : VoucherId) (row : Voucher) :
      ¬call.IsLock → db.vouchers.get voucherId = some row → row.status = .created →
      Effect db call
        { db.core with vouchers := db.vouchers.set voucherId { row with status := .rejected } }
  | settlementCreated (body : CreateSettlementRequest) (row : SettlementState) :
      db.settlements.get body.taskId = none → row.taskId = body.taskId →
      row.escrowAmount = body.escrowAmount → row.clientAgentId = body.clientAgentId →
      row.voucherId = body.voucherId → row.status = .draft →
      (∀ voucherId, body.voucherId = some voucherId →
        ∃ voucher, boundVoucher db body voucherId = .ok voucher) →
      Effect db (.createSettlement body)
        { db.core with settlements := db.settlements.set body.taskId row }
  | moved (call : Call) (taskId : TaskId) (row next : SettlementState) :
      ¬call.IsLock → db.settlements.get taskId = some row → row.SameTerms next →
      next.status.Working → canTransition row.status next.status = true →
      Effect db call { db.core with settlements := db.settlements.set taskId next }
  | cancelled (taskId : TaskId) (row next : SettlementState) :
      db.settlements.get taskId = some row → row.SameTerms next → next.status = .cancelled →
      canTransition row.status .cancelled = true →
      Effect db (.failSettlement taskId)
        { db.core with settlements := db.settlements.set taskId next }
  | disputed (call : Call) (taskId : TaskId) (row next : SettlementState) (cap : Capacity) :
      ¬call.IsLock → db.settlements.get taskId = some row → row.SameTerms next →
      next.status = .disputed → canTransition row.status .disputed = true →
      db.capacity.get row.clientAgentId = some cap →
      row.escrowAmount ≤ cap.reservedCredits + epsilon → call.resolves db = none →
      Effect db call
        { db.core with
          capacity := db.capacity.set row.clientAgentId (cap.freeze row.escrowAmount)
          settlements := db.settlements.set taskId next }
  | arbitrated (call : Call) (taskId : TaskId) (row next : SettlementState) :
      ¬call.IsLock → db.settlements.get taskId = some row → row.SameTerms next →
      next.status = .arbitrated → row.status = .disputed →
      Effect db call { db.core with settlements := db.settlements.set taskId next }
  | resolved (call : Call) (taskId : TaskId) (row next : SettlementState)
      (settled refunded : ℚ) (capacity : Table IdentityId Capacity) :
      db.settlements.get taskId = some row → call.resolves db = some taskId →
      row.SameTerms next → next.status = .settled ∨ next.status = .refunded →
      canTransition row.status next.status = true ∨ row.status = .disputed →
      Split (call.releasesWhole = true) row.escrowAmount settled refunded →
      ResolvedCapacity db.capacity ⟨row.clientAgentId, row.escrowAmount, settled, refunded⟩
        capacity →
      Effect db call
        { capacity
          vouchers := useVoucher db.vouchers row.voucherId
          settlements := db.settlements.set taskId next
          resolutions := db.resolutions ++
            [⟨row.clientAgentId, row.escrowAmount, settled, refunded⟩] }

/-! ## The tables that decide a split -/

/-- The progress receipts, the cases and the votes. -/
structure Evidence where
  progress : Table ReceiptId ProgressReceipt
  cases : Table CaseId ArbitrationCase
  votes : List ArbitrationVote

def Db.evidence (db : Db) : Evidence := ⟨db.progress, db.cases, db.votes⟩

/-- The receipt that a call stores. -/
def Call.submission : Call → Option ProgressReceipt
  | .submitProgressReceipt progress => some progress
  | .runtimeUpdateProgress progress _ signature =>
      some { progress with sellerSignature := "runtime:" ++ signature }
  | _ => none

/-- Whether a call asks for the confirmation of a receipt of a task. -/
def Call.confirms (taskId : TaskId) (receiptId : ReceiptId) : Call → Bool
  | .confirmProgressReceipt confirmed => confirmed = receiptId
  | .timeoutConfirmProgress task _ => task = taskId
  | _ => false

/-- The effect of a successful request on the tables that decide a split. -/
inductive Gathered (request : Request) (db : Db) (call : Call) : Evidence → Prop
  | quiet : Gathered request db call db.evidence
  | submitted (progress : ProgressReceipt) : call.submission = some progress →
      progress.WellFormed → db.progress.get progress.progressReceiptId = none →
      Gathered request db call
        { db.evidence with
          progress := db.progress.set progress.progressReceiptId progress }
  | confirmed (taskId : TaskId) (row : SettlementState)
      (receipts : List (ReceiptId × ProgressReceipt)) :
      db.settlements.get taskId = some row →
      (request.config.partyBinding = true → request.actor = some row.clientAgentId) →
      (∀ receipt ∈ receipts, db.progress.get receipt.1 = some receipt.2 ∧
        receipt.2.taskId = taskId ∧ receipt.2.confirmationStatus ≠ .confirmed ∧
        call.confirms taskId receipt.1 = true) →
      Gathered request db call
        { db.evidence with progress := confirmAll db.progress request.now receipts }
  | judged (caseId : CaseId) (row : ArbitrationCase) :
      (∀ percent ∈ row.finalPartialPercent,
        ∃ old, db.cases.get caseId = some old ∧ percent ∈ old.finalPartialPercent) →
      Gathered request db call { db.evidence with cases := db.cases.set caseId row }
  | voted (vote : ArbitrationVote) (cases : Table CaseId ArbitrationCase) :
      (∀ percent ∈ vote.partialPercent, Percentage percent) →
      (cases = db.cases ∨ ∃ old row, db.cases.get vote.caseId = some old ∧
        cases = db.cases.set vote.caseId row ∧
        (row.finalPartialPercent = old.finalPartialPercent ∨
          row.finalPartialPercent =
            (tallyVotes ((db.votes ++ [vote]).filter fun other => other.caseId = vote.caseId)).2)) →
      Gathered request db call { db.evidence with cases, votes := db.votes ++ [vote] }

/-! ## Percentages -/

section Percentages

variable {db : Db} {escrowAmount percent : ℚ} {whole : Prop}

theorem confirmedProgressPercent_percentage
    (claims : db.progress.Every fun _ row => Percentage row.claimedValuePercent) (taskId : TaskId) :
    Percentage (confirmedProgressPercent db taskId) := by
  unfold confirmedProgressPercent
  simp only []
  cases greatest : List.max? (_ : List ℚ) with
  | none => exact ⟨le_rfl, by norm_num⟩
  | some claimed =>
      obtain ⟨row, confirmed, rfl⟩ := List.mem_map.mp (List.max?_mem greatest)
      exact claims row.1 row.2 (Table.mem_rows_iff.mp (List.mem_filter.mp confirmed).1)

theorem mean_percentage {values : List ℚ} (bounded : ∀ value ∈ values, Percentage value) :
    Percentage (values.sum / values.length) := by
  refine ⟨div_nonneg (List.sum_nonneg fun value inside => (bounded value inside).1) (by simp), ?_⟩
  apply div_le_of_le_mul₀ (by simp) (by norm_num)
  have atMost := List.sum_le_card_nsmul values 100 fun value inside => (bounded value inside).2
  rwa [nsmul_eq_mul, mul_comm] at atMost

theorem cents_percentage (bounded : Percentage percent) : Percentage (cents percent) := by
  have hundred : cents 100 = 100 := by decide +kernel
  exact ⟨roundTo_nonneg bounded.1, hundred ▸ roundTo_mono bounded.2⟩

theorem tallyVotes_percentage {votes : List ArbitrationVote}
    (bounded : ∀ vote ∈ votes, ∀ percent ∈ vote.partialPercent, Percentage percent) :
    ∀ percent ∈ (tallyVotes votes).2, Percentage percent := by
  intro percent outcome
  unfold tallyVotes at outcome
  simp only [] at outcome
  split at outcome
  · cases outcome
  · split at outcome
    · cases outcome
    · obtain rfl := Option.some.inj outcome
      split
      · exact ⟨by norm_num, by norm_num⟩
      · apply cents_percentage
        apply mean_percentage
        intro value inside
        obtain ⟨vote, among, cast⟩ := List.mem_filterMap.mp inside
        exact bounded vote (List.mem_filter.mp among).1 value cast

/-- Nothing to the seller, and the escrow rounded to the buyer. -/
theorem split_refund (rounds : ¬whole) : Split whole escrowAmount 0 (cents escrowAmount) := by
  have refund : Split whole escrowAmount (percentSplit escrowAmount 0).1
      (percentSplit escrowAmount 0).2 := .share 0 rounds ⟨le_rfl, by norm_num⟩
  simpa [percentSplit] using refund

theorem adjustAutoSplitForRules_split (rounds : ¬whole) (ctx : AutoArbitrationContext)
    (confirmed : Percentage percent) :
    Split whole escrowAmount (adjustAutoSplitForRules ctx percent escrowAmount).1
      (adjustAutoSplitForRules ctx percent escrowAmount).2 := by
  have raised : Percentage (max percent 0) := ⟨le_max_right _ _, max_le confirmed.2 (by norm_num)⟩
  unfold adjustAutoSplitForRules
  simp only []
  split_ifs
  any_goals exact split_refund rounds
  · exact .share _ rounds raised
  · exact .rounded rounds
  · exact .share _ rounds confirmed

theorem decisionSplit_split (rounds : ¬whole) (outcome : ArbitrationVoteDecision)
    {final : Option ℚ} (bounded : ∀ percent ∈ final, Percentage percent) :
    Split whole escrowAmount (decisionSplit outcome final escrowAmount).2.1
      (decisionSplit outcome final escrowAmount).2.2 := by
  cases outcome with
  | buyerWins => exact split_refund rounds
  | sellerWins => exact .rounded rounds
  | partialSplit =>
      refine .share _ rounds ?_
      cases final with
      | none => exact ⟨by norm_num, by norm_num⟩
      | some percent => exact bounded percent rfl

theorem autoDecision_over (settledAmount : ℚ) :
    (if settledAmount ≤ 1 / 10 ^ 6 then TaskStatus.refunded else .settled) = .settled ∨
      (if settledAmount ≤ 1 / 10 ^ 6 then TaskStatus.refunded else .settled) = .refunded := by
  split_ifs
  · exact .inr rfl
  · exact .inl rfl

theorem decisionSplit_over (outcome : ArbitrationVoteDecision) (final : Option ℚ)
    (escrowAmount : ℚ) : (decisionSplit outcome final escrowAmount).1 = .settled ∨
      (decisionSplit outcome final escrowAmount).1 = .refunded := by
  cases outcome with
  | buyerWins => exact .inr rfl
  | sellerWins => exact .inl rfl
  | partialSplit => exact .inl rfl

/-- What is stored of a decision has its status. -/
theorem decidedRow_status {row : SettlementState} {outcome : ArbitrationVoteDecision}
    {final : Option ℚ} {now : ℚ} :
    (row.decidedRow (decisionSplit outcome final escrowAmount) now).status =
      (decisionSplit outcome final escrowAmount).1 := by
  cases outcome with
  | buyerWins | sellerWins | partialSplit => rfl

end Percentages

/-! ## Every request -/

section Requests

variable {request : Request} {db next : Db} {call : Call} {taskId : TaskId}
  {row state : SettlementState} {target : TaskStatus} {settled refunded : ℚ}

theorem SettlementState.SameTerms.movedRow (same : row.SameTerms state) (now : ℚ) :
    row.SameTerms (state.movedRow target now) :=
  ⟨same.taskId, same.escrowAmount, same.clientAgentId, same.voucherId⟩

theorem TaskStatus.Working.canonical (working : target.Working) :
    canonicalTaskStatus target = target := by
  revert target
  unfold TaskStatus.Working
  decide

/-- A transition of a stored settlement. -/
theorem transition_stored (wellFormed : db.WellFormed)
    (there : db.settlements.get taskId = some row)
    (ran : applyTransition request db state target = .ok next) (same : row.SameTerms state)
    (stage : state.status = row.stage) :
    canTransition row.status target = true ∧ ∃ audits,
      next = { db with
        settlements := db.settlements.set taskId (state.movedRow target request.now)
        audits } := by
  obtain ⟨allowed, audits, rfl⟩ := transition_ok ran
  rw [stage, wellFormed.canonical taskId row there] at allowed
  rw [same.taskId, wellFormed.keyed taskId row there]
  exact ⟨allowed, audits, rfl⟩

theorem transition_moves (wellFormed : db.WellFormed)
    (there : db.settlements.get taskId = some row)
    (ran : applyTransition request db state target = .ok next) (same : row.SameTerms state)
    (stage : state.status = row.stage) (other : ¬call.IsLock) (working : target.Working) :
    Effect db call next.core ∧ Gathered request db call next.evidence := by
  obtain ⟨allowed, audits, rfl⟩ := transition_stored wellFormed there ran same stage
  have status : (state.movedRow target request.now).status = target := working.canonical
  refine ⟨.moved call taskId row (state.movedRow target request.now) other there
    (same.movedRow request.now) ?_ ?_, .quiet⟩
  · rwa [status]
  · rwa [status]

theorem dispute_effect (wellFormed : db.WellFormed) (other : ¬call.IsLock)
    (opens : call.resolves db = none) (ran : Disputes request db taskId next) :
    Effect db call next.core ∧ Gathered request db call next.evidence := by
  obtain ⟨row, moved, there, froze, ran⟩ := ran
  obtain ⟨cap, funded, covered, rfl⟩ := moveReservedToDisputed_ok froze
  obtain ⟨allowed, audits, rfl⟩ := transition_ok ran
  have keyed := wellFormed.keyed taskId row there
  rw [fromRow_status, wellFormed.canonical taskId row there] at allowed
  refine ⟨?_, .quiet⟩
  rw [show row.fromRow.taskId = taskId from keyed]
  exact .disputed call taskId row _ cap other there ⟨rfl, rfl, rfl, rfl⟩ rfl allowed funded covered
    opens

/-- A resolution, whichever route it came by. -/
theorem resolution_effect {capacity : Table IdentityId Capacity} (now : ℚ)
    (keyed : row.taskId = taskId) (there : db.settlements.get taskId = some row)
    (resolving : call.resolves db = some taskId) (same : row.SameTerms state)
    (ended : target = .settled ∨ target = .refunded)
    (before : canTransition row.status target = true ∨ row.status = .disputed)
    (split : Split (call.releasesWhole = true) row.escrowAmount settled refunded)
    (taken : ResolvedCapacity db.capacity
      ⟨state.clientAgentId, state.escrowAmount, settled, refunded⟩ capacity)
    (core : next.core = ⟨capacity, useVoucher db.vouchers state.voucherId,
      db.settlements.set state.taskId (state.movedRow target now), db.resolutions ++
        [⟨state.clientAgentId, state.escrowAmount, settled, refunded⟩]⟩) :
    Effect db call next.core := by
  have status : (state.movedRow target now).status = target := by
    rcases ended with rfl | rfl <;> rfl
  rw [same.clientAgentId, same.escrowAmount] at taken
  rw [core, same.taskId, keyed, same.clientAgentId, same.escrowAmount, same.voucherId]
  refine .resolved call taskId row _ settled refunded capacity there resolving
    (same.movedRow now) ?_ ?_ split taken
  · rwa [status]
  · rwa [status]

theorem finalize_effect (wellFormed : db.WellFormed)
    (there : db.settlements.get taskId = some row)
    (ran : finalize request db state .settled settled refunded = .ok next)
    (resolving : call.resolves db = some taskId) (same : row.SameTerms state)
    (stage : state.status = row.stage)
    (split : Split (call.releasesWhole = true) row.escrowAmount settled refunded) :
    Effect db call next.core ∧ Gathered request db call next.evidence := by
  obtain ⟨allowed, capacity, audits, taken, rfl⟩ := finalize_ok ran
  rw [stage, wellFormed.canonical taskId row there] at allowed
  exact ⟨resolution_effect request.now (wellFormed.keyed taskId row there) there resolving same (.inl rfl)
    (.inl allowed) split taken rfl, .quiet⟩

/-- The settlement of a progress receipt takes the status of the receipt. -/
theorem progress_moves (wellFormed : db.WellFormed)
    (there : db.settlements.get taskId = some row) (other : ¬call.IsLock)
    (working : target.Working) (allowed : canTransition row.stage target = true)
    (core : next.core = { db.core with
      settlements := db.settlements.set row.taskId
        { row.fromRow with status := target : SettlementState }.toRow }) :
    Effect db call next.core := by
  have status : canonicalTaskStatus target = target := working.canonical
  rw [core, wellFormed.keyed taskId row there]
  rw [wellFormed.canonical taskId row there] at allowed
  refine .moved call taskId row _ other there ⟨rfl, rfl, rfl, rfl⟩ ?_ ?_
  · change (canonicalTaskStatus target).Working
    rwa [status]
  · change canTransition row.status (canonicalTaskStatus target) = true
    rwa [status]

theorem requireBuyer_binding (checked : requireBuyer request row.fromRow = .ok ())
    (binding : request.config.partyBinding = true) : request.actor = some row.clientAgentId := by
  rw [requireBuyer, if_pos binding, requireActor] at checked
  cases acting : request.actor with
  | none => simp [acting] at checked
  | some actor =>
      rw [acting, ok_bind, require_eq_ok] at checked
      exact congrArg some checked

theorem submission_effect {caller : Request} {progress : ProgressReceipt}
    (wellFormed : db.WellFormed) (other : ¬call.IsLock) (submits : call.submission = some progress)
    (ran : submitProgressReceipt caller db progress = .ok next) :
    Effect db call next.core ∧ Gathered request db call next.evidence := by
  obtain ⟨bounds, fresh, row, there, allowed, rfl⟩ := submitProgressReceipt_ok ran
  have working : TaskStatus.progressSubmitted.Working := by decide
  exact ⟨progress_moves wellFormed there other working allowed rfl,
    .submitted progress submits bounds fresh⟩

theorem voucherAccepted_effect {voucherId : VoucherId} {voucher : Voucher} {seller : IdentityId}
    (other : ¬call.IsLock) (there : db.vouchers.get voucherId = some voucher)
    (ran : acceptVoucherRow request db voucherId voucher seller = .ok next) :
    Effect db call next.core ∧ Gathered request db call next.evidence := by
  obtain ⟨created, cap, funded, available, rfl⟩ := acceptVoucherRow_ok ran
  exact ⟨.voucherAccepted call voucherId voucher cap other there created funded available, .quiet⟩

theorem buyerAccept_effect {sceneId : Option String} (wellFormed : db.WellFormed)
    (there : db.settlements.get taskId = some row)
    (ran : finalizeFull request db
      ((row.fromRow.hintScene sceneId).release (cents row.escrowAmount) 0 request.now) = .ok next) :
    Effect db (.buyerAcceptSettlement taskId sceneId) next.core ∧
      Gathered request db (.buyerAcceptSettlement taskId sceneId) next.evidence := by
  obtain ⟨hinted, status⟩ := hintScene_sameTerms row.fromRow sceneId
  obtain ⟨allowed, capacity, audits, profiles, taken, rfl⟩ := finalizeFull_ok ran
  have same : row.SameTerms
      ((row.fromRow.hintScene sceneId).release (cents row.escrowAmount) 0 request.now) :=
    ⟨hinted.taskId, hinted.escrowAmount, hinted.clientAgentId, hinted.voucherId⟩
  have before : canTransition row.status .settled = true := by
    rwa [← wellFormed.canonical taskId row there, ← fromRow_status, ← status]
  refine ⟨resolution_effect request.now (wellFormed.keyed taskId row there) there rfl same (.inl rfl)
    (.inl before) ?_ taken rfl, .quiet⟩
  rw [same.escrowAmount]
  exact .whole rfl

theorem canTransition_arbitrated {status : TaskStatus}
    (allowed : canTransition status .arbitrated = true) : canonicalTaskStatus status = .disputed := by
  revert allowed
  cases status <;> decide

theorem autoArbitrate_effect {bundle : Option BundleVerdict} (wellFormed : db.WellFormed)
    (ran : autoArbitrate request db taskId bundle = .ok next) :
    Effect db (.autoArbitrate taskId bundle) next.core ∧
      Gathered request db (.autoArbitrate taskId bundle) next.evidence := by
  obtain ⟨row, arbitrated, there, moved, state, ran, same, -⟩ := autoArbitrate_ok ran
  obtain ⟨allowed, audits, rfl⟩ := transition_stored wellFormed there moved
    ⟨rfl, rfl, rfl, rfl⟩ rfl
  obtain ⟨-, capacity, audits, taken, rfl⟩ := finalize_ok ran
  have keyed := wellFormed.keyed taskId row there
  have disputed : row.status = .disputed :=
    (wellFormed.canonical taskId row there).symm.trans (canTransition_arbitrated allowed)
  have ended := autoDecision_over (adjustAutoSplitForRules
    (buildAutoArbitrationContext request db row.fromRow bundle) (confirmedProgressPercent db taskId)
    row.escrowAmount).1
  refine ⟨resolution_effect request.now keyed there rfl same ended (.inr disputed) ?_ taken ?_,
    .quiet⟩
  · exact adjustAutoSplitForRules_split nofun _
      (confirmedProgressPercent_percentage wellFormed.claims taskId)
  · have again : state.taskId = taskId := same.taskId.trans keyed
    simp only [Db.core, again, Table.set_set]

/-- Every successful request, with its effect on the tables that hold money and on those that
decide a split. -/
theorem dispatch_effect (wellFormed : db.WellFormed) (ran : dispatch request db call = .ok next) :
    Effect db call next.core ∧ Gathered request db call next.evidence := by
  have confirms : TaskStatus.progressConfirmed.Working := by decide
  cases call with
  | lockUsdc identityId amount =>
      obtain ⟨positive, rfl⟩ := lockUsdc_ok ran
      exact ⟨.locked identityId amount positive, .quiet⟩
  | releaseUnused identityId amount =>
      obtain ⟨cap, there, positive, available, rfl⟩ := releaseUnused_ok ran
      exact ⟨.released identityId amount cap there positive available, .quiet⟩
  | allocate identityId allocations =>
      obtain ⟨profiles, rfl⟩ := allocate_ok ran
      exact ⟨.quiet _ id, .quiet⟩
  | createVoucher voucherId body =>
      obtain ⟨fresh, positive, profiles, rfl⟩ := createVoucher_ok ran
      exact ⟨.voucherCreated voucherId body fresh positive, .quiet⟩
  | acceptVoucher voucherId seller =>
      obtain ⟨voucher, there, accepted⟩ := acceptVoucher_ok ran
      exact voucherAccepted_effect id there accepted
  | acceptPaymentCode voucherId seller =>
      obtain ⟨voucher, there, accepted⟩ := acceptPaymentCode_ok ran
      exact voucherAccepted_effect id there accepted
  | rejectPaymentCode voucherId seller =>
      obtain ⟨voucher, there, created, rfl⟩ := rejectPaymentCode_ok ran
      exact ⟨.voucherRejected _ voucherId voucher id there created, .quiet⟩
  | createSettlement body =>
      obtain ⟨fresh, bound, voucher, audits, rfl⟩ := createSettlement_ok ran
      exact ⟨.settlementCreated body _ fresh rfl rfl rfl rfl rfl bound, .quiet⟩
  | markSettlementPending | startSettlement | submitSettlement =>
      obtain ⟨row, there, moved⟩ := movesOn_ok ran rfl
      exact transition_moves wellFormed there moved ⟨rfl, rfl, rfl, rfl⟩ rfl id (by decide)
  | lockSettlement taskId worker =>
      obtain ⟨row, there, moved⟩ := lockSettlement_ok ran
      exact transition_moves wellFormed there moved ⟨rfl, rfl, rfl, rfl⟩ rfl id (by decide)
  | failSettlement taskId =>
      obtain ⟨row, there, moved⟩ := movesOn_ok ran rfl
      obtain ⟨allowed, audits, rfl⟩ := transition_stored wellFormed there moved
        ⟨rfl, rfl, rfl, rfl⟩ rfl
      exact ⟨.cancelled taskId row _ there ⟨rfl, rfl, rfl, rfl⟩ rfl allowed, .quiet⟩
  | partialSettlement taskId percent =>
      obtain ⟨row, there, positive, atMost, ran⟩ := partialSettlement_ok ran
      exact finalize_effect wellFormed there ran rfl ⟨rfl, rfl, rfl, rfl⟩ rfl
        (.share percent nofun ⟨positive.le, atMost⟩)
  | regretSettlement taskId buyer =>
      obtain ⟨row, there, ran⟩ := regretSettlement_ok ran
      exact finalize_effect wellFormed there ran rfl ⟨rfl, rfl, rfl, rfl⟩ rfl
        (.share _ nofun (confirmedProgressPercent_percentage wellFormed.claims taskId))
  | openDispute taskId => exact dispute_effect wellFormed id rfl (openDispute_ok ran)
  | buyerAcceptSettlement taskId sceneId =>
      obtain ⟨row, there, -, ran⟩ := buyerAcceptSettlement_ok ran
      exact buyerAccept_effect wellFormed there ran
  | autoConfirmSettlement taskId => exact absurd ran autoConfirmSettlement_refused
  | buyerRejectSettlement taskId => exact dispute_effect wellFormed id rfl (buyerRejectSettlement_ok ran)
  | autoArbitrate taskId bundle =>
      exact autoArbitrate_effect wellFormed ran
  | submitProgressReceipt progress => exact submission_effect wellFormed id rfl ran
  | runtimeUpdateProgress progress keyIdentityId signature =>
      exact submission_effect wellFormed id rfl (runtimeUpdateProgress_ok ran)
  | confirmProgressReceipt receiptId =>
      obtain ⟨receipt, found, rfl | ⟨unconfirmed, row, there, buyer, allowed, rfl⟩⟩ :=
        confirmProgressReceipt_ok ran
      · exact ⟨.quiet _ id, .quiet⟩
      · refine ⟨progress_moves wellFormed there id confirms allowed rfl,
          .confirmed receipt.taskId row [(receiptId, receipt)] there ?_ ?_⟩
        · intro binding
          rw [requireConfirmingBuyer, if_pos binding] at buyer
          exact requireBuyer_binding buyer binding
        · intro confirmed only
          obtain rfl := List.mem_singleton.mp only
          exact ⟨found, rfl, unconfirmed, decide_eq_true rfl⟩
  | timeoutConfirmProgress taskId hours =>
      obtain ⟨row, there, buyer, rfl | ⟨allowed, rfl⟩⟩ := timeoutConfirmProgress_ok ran
      · exact ⟨.quiet _ id, .quiet⟩
      · refine ⟨progress_moves wellFormed there id confirms allowed rfl,
          .confirmed taskId row _ there (requireBuyer_binding buyer) ?_⟩
        intro receipt overdue
        obtain ⟨inside, due⟩ := List.mem_filter.mp overdue
        obtain ⟨ofTask, pending, -⟩ := of_decide_eq_true due
        exact ⟨Table.mem_rows_iff.mp inside, ofTask, by simp [pending], decide_eq_true rfl⟩
  | createArbitrationCase caseId body =>
      obtain ⟨fresh, row, saved, there, rfl | ⟨disputed, rfl⟩, rfl⟩ :=
        createArbitrationCase_ok ran
      · exact ⟨.quiet _ id, .judged caseId _ nofun⟩
      · have keyed := wellFormed.keyed body.taskId row there
        rw [wellFormed.canonical body.taskId row there] at disputed
        refine ⟨?_, .judged caseId _ nofun⟩
        have stored : (row.fromRow.movedRow .arbitrated request.now).taskId = body.taskId := keyed
        simp only [Db.core, Db.setCase, Db.setSettlement, stored]
        exact .arbitrated _ body.taskId row _ id there ⟨rfl, rfl, rfl, rfl⟩ rfl disputed
  | assignArbitrators caseId count =>
      obtain ⟨row, assignments, there, rfl⟩ := assignArbitrators_ok ran
      exact ⟨.quiet _ id, .judged caseId _ fun percent final => ⟨row, there, final⟩⟩
  | castVote vote =>
      obtain ⟨bounded, row, there, rfl | rfl | rfl⟩ := castVote_ok ran
      · exact ⟨.quiet _ id, .voted vote _ bounded (.inl rfl)⟩
      · exact ⟨.quiet _ id, .voted vote _ bounded (.inr ⟨row, _, there, rfl, .inl rfl⟩)⟩
      · exact ⟨.quiet _ id, .voted vote _ bounded (.inr ⟨row, _, there, rfl, .inr rfl⟩)⟩
  | executeArbitrationCase caseId =>
      obtain ⟨case_, outcome, row, found, decided, there, capacity, before, taken, rfl⟩ :=
        executeArbitrationCase_ok wellFormed.keyed ran
      rw [wellFormed.canonical case_.taskId row there] at before
      have ended := decisionSplit_over outcome case_.finalPartialPercent row.escrowAmount
      refine ⟨.resolved _ case_.taskId row _ _ _ capacity there ?_ ⟨rfl, rfl, rfl, rfl⟩ ?_ ?_
        (decisionSplit_split nofun outcome (wellFormed.cases caseId case_ found)) taken,
        .judged caseId _ fun percent final => ⟨case_, found, final⟩⟩
      · rw [Call.resolves, found]
        rfl
      · rwa [decidedRow_status]
      · rw [decidedRow_status]
        exact before.symm
  | joinArbitrationPool | storeContract | storeReceipt | storeRoleProfile =>
      obtain rfl := Except.ok.inj ran
      exact ⟨.quiet _ id, .quiet⟩

end Requests

/-! ## Databases stay well-formed -/

section WellFormed

variable {request : Request} {db next : Db} {call : Call} {core : Core} {evidence : Evidence}

theorem Effect.keyed (effect : Effect db call core) (wellFormed : db.WellFormed) :
    core.settlements.Every fun taskId row => row.taskId = taskId := by
  have keyed := wellFormed.keyed
  cases effect with
  | settlementCreated body row _ named => exact keyed.set named
  | moved _ taskId row next _ there same => exact keyed.set (same.taskId.trans (keyed _ _ there))
  | cancelled taskId row next there same => exact keyed.set (same.taskId.trans (keyed _ _ there))
  | disputed _ taskId row next _ _ there same =>
      exact keyed.set (same.taskId.trans (keyed _ _ there))
  | arbitrated _ taskId row next _ there same =>
      exact keyed.set (same.taskId.trans (keyed _ _ there))
  | resolved _ taskId row next _ _ _ there _ same =>
      exact keyed.set (same.taskId.trans (keyed _ _ there))
  | _ => exact keyed

theorem Effect.canonical (effect : Effect db call core) (wellFormed : db.WellFormed) :
    core.settlements.Every fun _ row => row.stage = row.status := by
  have canonical := wellFormed.canonical
  have staged {row : SettlementState} {status : TaskStatus} (is : row.status = status)
      (fixed : canonicalTaskStatus status = status) : row.stage = row.status := by
    rw [SettlementState.stage, is, fixed]
  cases effect with
  | settlementCreated body row _ _ _ _ _ draft => exact canonical.set (staged draft rfl)
  | moved _ taskId row next _ _ _ working => exact canonical.set working.canonical
  | cancelled taskId row next _ _ cancelled => exact canonical.set (staged cancelled rfl)
  | disputed _ taskId row next _ _ _ _ disputed => exact canonical.set (staged disputed rfl)
  | arbitrated _ taskId row next _ _ _ arbitrated => exact canonical.set (staged arbitrated rfl)
  | resolved _ taskId row next _ _ _ _ _ _ ended =>
      rcases ended with settled | refunded
      · exact canonical.set (staged settled rfl)
      · exact canonical.set (staged refunded rfl)
  | _ => exact canonical

theorem confirmAll_every {property : ReceiptId → ProgressReceipt → Prop} {now : ℚ}
    {rows : List (ReceiptId × ProgressReceipt)} {table : Table ReceiptId ProgressReceipt}
    (every : table.Every property) (confirmed : ∀ row ∈ rows, property row.1 (row.2.confirm now)) :
    (confirmAll table now rows).Every property := by
  induction rows generalizing table with
  | nil => exact every
  | cons row rest ih =>
      refine ih (every.set (confirmed row List.mem_cons_self)) fun other inside => ?_
      exact confirmed other (List.mem_cons_of_mem row inside)

theorem Gathered.claims (gathered : Gathered request db call evidence) (wellFormed : db.WellFormed) :
    evidence.progress.Every fun _ row => Percentage row.claimedValuePercent := by
  cases gathered with
  | submitted progress _ bounds => exact wellFormed.claims.set bounds.2
  | confirmed taskId row receipts _ _ listed =>
      apply confirmAll_every wellFormed.claims
      intro receipt inside
      exact wellFormed.claims receipt.1 receipt.2 (listed receipt inside).1
  | _ => exact wellFormed.claims

theorem Gathered.votes (gathered : Gathered request db call evidence) (wellFormed : db.WellFormed) :
    ∀ vote ∈ evidence.votes, ∀ percent ∈ vote.partialPercent, Percentage percent := by
  cases gathered with
  | voted vote cases bounded =>
      intro other inside
      rcases List.mem_append.mp inside with before | new
      · exact wellFormed.votes other before
      · exact List.mem_singleton.mp new ▸ bounded
  | _ => exact wellFormed.votes

theorem Gathered.cases (gathered : Gathered request db call evidence) (wellFormed : db.WellFormed) :
    evidence.cases.Every fun _ row => ∀ percent ∈ row.finalPartialPercent, Percentage percent := by
  have votes := gathered.votes wellFormed
  cases gathered with
  | judged caseId row kept =>
      apply wellFormed.cases.set
      intro percent final
      obtain ⟨old, there, before⟩ := kept percent final
      exact wellFormed.cases caseId old there percent before
  | voted vote cases _ stored =>
      obtain rfl | ⟨old, row, there, rfl, same | tallied⟩ := stored
      · exact wellFormed.cases
      · exact wellFormed.cases.set (same ▸ wellFormed.cases _ old there)
      · apply wellFormed.cases.set
        rw [tallied]
        exact tallyVotes_percentage fun other inside => votes other (List.mem_filter.mp inside).1
  | _ => exact wellFormed.cases

theorem wellFormed_empty : ({} : Db).WellFormed where
  keyed := Table.every_empty _
  canonical := Table.every_empty _
  claims := Table.every_empty _
  votes := nofun
  cases := Table.every_empty _

theorem dispatch_wellFormed (wellFormed : db.WellFormed)
    (ran : dispatch request db call = .ok next) : next.WellFormed := by
  obtain ⟨effect, gathered⟩ := dispatch_effect wellFormed ran
  exact {
    keyed := effect.keyed wellFormed
    canonical := effect.canonical wellFormed
    claims := gathered.claims wellFormed
    votes := gathered.votes wellFormed
    cases := gathered.cases wellFormed }

end WellFormed

/-! ## Runs -/

section Runs

variable {config : Config} {world next start finish : World} {action : Action}
  {actions : List Action}

theorem step_wellFormed (wellFormed : world.db.WellFormed)
    (step : (system config).Step world action next) : next.db.WellFormed :=
  step_db wellFormed (fun _ _ _ _ ran => dispatch_wellFormed wellFormed ran) step

theorem reachable_wellFormed (reachable : (system config).Reachable world) :
    world.db.WellFormed := by
  refine reachable.invariant (fun world initial => ?_) fun world action next _ wellFormed step => ?_
  · have empty : world.db = {} := initial
    exact empty ▸ wellFormed_empty
  · exact step_wellFormed wellFormed step

/-- What the effect of a step keeps, the step keeps. -/
theorem step_core (property : Core → Prop) (wellFormed : world.db.WellFormed)
    (before : property world.db.core)
    (kept : ∀ request call core, action = .request request call → Effect world.db call core →
      property core)
    (step : (system config).Step world action next) : property next.db.core := by
  change (property ∘ Db.core) next.db
  refine step_db before (fun request call db same ran => ?_) step
  exact kept request call db.core same (dispatch_effect wellFormed ran).1

/-- An invariant of the tables that hold money, in the runs whose steps are all admitted. -/
theorem run_core (property : Core → Prop) {allowed : World → Action → Prop}
    (initially : property ({} : Db).core)
    (kept : ∀ world request call core, (system config).Reachable world → world.db.WellFormed →
      property world.db.core → allowed world (.request request call) →
      Effect world.db call core → property core)
    (run : ((system config).restrict allowed).Run start actions finish)
    (initial : (system config).Init start) : property finish.db.core := by
  have empty : start.db = {} := initial
  refine run.preserves_restricted (fun world action next reachable before step admitted => ?_)
    (.init initial) (empty ▸ initially)
  have wellFormed := reachable_wellFormed reachable
  refine step_core property wellFormed before (fun request call core same effect => ?_) step
  exact kept world request call core reachable wellFormed before (same ▸ admitted) effect

end Runs

end TrustChain.Service
