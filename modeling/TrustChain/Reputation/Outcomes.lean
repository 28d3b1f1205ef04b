import TrustChain.Reputation.Wash

/-!
# The reputation of an agent

What the outcome of a settlement does to the reputation of its worker and of its buyer. Trades that
look like wash trading raise flags instead of the score. The score stays between zero and a thousand,
and no task is counted twice.
-/

namespace TrustChain.Reputation

open Library Service

abbrev AgentId := String

/-- A settlement, as the history of trades reads it. The routes let no blank identifier through. -/
structure Settlement where
  clientAgentId : IdentityId
  workerAgentId : IdentityId
  escrowAmount : ℚ
  releasedAmount : Option ℚ := none
  status : TaskStatus := .draft
  createdAt : ℚ
  named : norm (some clientAgentId) ≠ "" ∧ norm (some workerAgentId) ≠ ""
  deriving DecidableEq

/-- `_SUCCESS`. -/
def successStatuses : List TaskStatus := [.settled, .partiallySettled]

namespace Settlement

variable (row : Settlement)

/-- `released_amount`, or else `escrow_amount`. -/
def amount : ℚ := row.releasedAmount.getD row.escrowAmount

def edge : TradeEdge where
  buyerId := row.clientAgentId
  sellerId := row.workerAgentId
  amount := row.amount
  createdAt := some row.createdAt

end Settlement

/-- The settlements that `load_recent_edges` selects. -/
def Selected (settings : WashSettings) (buyerId sellerId : Option IdentityId)
    (excludeTaskId : Option TaskId) (now : ℚ) (taskId : TaskId) (row : Settlement) : Prop :=
  let burstHours : ℚ := max 1 (settings.burstWindowMinutes / 60 + 1 : Nat)
  let since := now - max (settings.pairWindowHours : ℚ) burstHours * 3600
  row.status ∈ successStatuses ∧ since ≤ row.createdAt ∧
    ((∃ seller ∈ sellerId, seller ≠ "" ∧ row.workerAgentId = seller) ∨
      ∃ buyer ∈ buyerId, ∃ seller ∈ sellerId, buyer ≠ "" ∧ seller ≠ "" ∧
        row.workerAgentId = buyer ∧ row.clientAgentId = seller) ∧
    ∀ excluded ∈ excludeTaskId, excluded ≠ "" → taskId ≠ excluded

instance (settings : WashSettings) (buyerId sellerId : Option IdentityId)
    (excludeTaskId : Option TaskId) (now : ℚ) (taskId : TaskId) (row : Settlement) :
    Decidable (Selected settings buyerId sellerId excludeTaskId now taskId row) :=
  inferInstanceAs (Decidable (_ ∧ _ ∧ _ ∧ _))

def loadRecentEdges (settings : WashSettings) (settlements : Table TaskId Settlement)
    (buyerId sellerId : Option IdentityId) (excludeTaskId : Option TaskId) (now : ℚ) :
    List TradeEdge :=
  (settlements.rows.filter fun entry =>
    Selected settings buyerId sellerId excludeTaskId now entry.1 entry.2).map fun entry =>
      entry.2.edge

/-- The outcome of a settlement, as it is reported. -/
structure Report where
  success : Bool
  disputed : Bool := false
  volume : ℚ
  buyerAgentId : Option AgentId := none
  excludeTaskId : Option TaskId := none
  buyerWallet : Option String := none
  sellerWallet : Option String := none

/-- `inspect_settlement_wash`: the history is read a little before it is judged. -/
def inspectSettlementWash (settings : WashSettings) (settlements : Table TaskId Settlement)
    (workerAgentId : AgentId) (report : Report) (loadedAt now : ℚ) : WashVerdict :=
  evaluateWashSignals settings
    { buyerId := report.buyerAgentId
      sellerId := some workerAgentId
      amount := report.volume
      buyerWallet := report.buyerWallet
      sellerWallet := report.sellerWallet }
    (loadRecentEdges settings settlements report.buyerAgentId (some workerAgentId)
      report.excludeTaskId loadedAt) now

inductive IncidentKind where
  | wash | dispute | default
  deriving DecidableEq, Repr

structure ReputationRow where
  score : ℚ := 100
  totalTasks : Nat := 0
  successfulTasks : Nat := 0
  disputedTasks : Nat := 0
  consecutiveSuccesses : Nat := 0
  washTradeFlags : Nat := 0
  lastIncidentKind : Option IncidentKind := none
  deriving DecidableEq

namespace ReputationRow

variable (row : ReputationRow)

/-- The flags are raised, and the score is lowered by so much. -/
def flag (flags : Nat) (penalty : ℚ) : ReputationRow :=
  { row with
    washTradeFlags := row.washTradeFlags + flags
    lastIncidentKind := some .wash
    score := max 0 (row.score - penalty)
    consecutiveSuccesses := 0 }

/-- A task is counted as successful, and the score is raised by a part for the volume. -/
def succeed (bump perVolume volume : ℚ) : ReputationRow :=
  { row with
    totalTasks := row.totalTasks + 1
    successfulTasks := row.successfulTasks + 1
    consecutiveSuccesses := row.consecutiveSuccesses + 1
    score := min 1000 (row.score + (bump + min (max volume 0) 100 * perVolume)) }

/-- A task is counted as disputed. -/
def dispute (penalty : ℚ) : ReputationRow :=
  { row with
    totalTasks := row.totalTasks + 1
    disputedTasks := row.disputedTasks + 1
    consecutiveSuccesses := 0
    score := max 0 (row.score - penalty)
    lastIncidentKind := some .dispute }

/-- A task is counted that neither succeeded nor was disputed. -/
def default (penalty : ℚ) : ReputationRow :=
  { row with
    totalTasks := row.totalTasks + 1
    consecutiveSuccesses := 0
    score := max 0 (row.score - penalty)
    lastIncidentKind := some .default }

/-- `record_worker_settlement_outcome`, on the row of the worker. -/
def recordWorker (report : Report) (verdict : WashVerdict) : ReputationRow :=
  if report.success ∧ ¬report.disputed ∧ ¬verdict.credit then
    if verdict.flagsDelta = 0 then row
    else row.flag verdict.flagsDelta (5 * verdict.flagsDelta)
  else if report.disputed then row.dispute 15
  else if report.success then row.succeed 5 (1 / 20) report.volume
  else row.default 8

/-- `record_buyer_settlement_outcome`, on the row of the buyer. A task that neither succeeded nor
was disputed is not counted. -/
def recordBuyer (report : Report) (verdict : WashVerdict) : ReputationRow :=
  if report.success ∧ ¬report.disputed then
    if verdict.credit then row.succeed 2 (1 / 50) report.volume
    else if verdict.flagsDelta = 0 then row
    else row.flag (max 1 (verdict.flagsDelta / 2)) 3
  else if report.disputed then row.dispute 5
  else row

/-! ## Sound rows -/

/-- The score is within its bounds, and no task is both successful and disputed. -/
structure Sound : Prop where
  score : 0 ≤ row.score ∧ row.score ≤ 1000
  tasks : row.successfulTasks + row.disputedTasks ≤ row.totalTasks

end ReputationRow

variable {row : ReputationRow}

theorem ReputationRow.sound_default : ({} : ReputationRow).Sound :=
  ⟨⟨by norm_num, by norm_num⟩, le_rfl⟩

namespace ReputationRow.Sound

/-- A lowered score is within its bounds. -/
theorem lowered {score penalty : ℚ} (within : 0 ≤ score ∧ score ≤ 1000) (penal : 0 ≤ penalty) :
    0 ≤ max 0 (score - penalty) ∧ max 0 (score - penalty) ≤ 1000 :=
  ⟨le_max_left _ _, max_le (by norm_num) (by linarith)⟩

variable (sound : row.Sound)

include sound

theorem flag {penalty : ℚ} (flags : Nat) (penal : 0 ≤ penalty) : (row.flag flags penalty).Sound :=
  ⟨lowered sound.score penal, sound.tasks⟩

theorem succeed {bump perVolume : ℚ} (volume : ℚ) (bumps : 0 ≤ bump) (pays : 0 ≤ perVolume) :
    (row.succeed bump perVolume volume).Sound where
  score := by
    have paid : 0 ≤ min (max volume 0) 100 * perVolume :=
      mul_nonneg (le_min (le_max_right _ _) (by norm_num)) pays
    exact ⟨le_min (by norm_num) (by linarith [sound.score.1]), min_le_left _ _⟩
  tasks := by
    have := sound.tasks
    simp only [ReputationRow.succeed]
    omega

theorem dispute {penalty : ℚ} (penal : 0 ≤ penalty) : (row.dispute penalty).Sound where
  score := lowered sound.score penal
  tasks := by
    have := sound.tasks
    simp only [ReputationRow.dispute]
    omega

theorem default {penalty : ℚ} (penal : 0 ≤ penalty) : (row.default penalty).Sound where
  score := lowered sound.score penal
  tasks := Nat.le_succ_of_le sound.tasks

theorem recordWorker (report : Report) (verdict : WashVerdict) :
    (row.recordWorker report verdict).Sound := by
  unfold ReputationRow.recordWorker
  split
  · split
    · exact sound
    · exact sound.flag _ (by positivity)
  · split
    · exact sound.dispute (by norm_num)
    · split
      · exact sound.succeed _ (by norm_num) (by norm_num)
      · exact sound.default (by norm_num)

theorem recordBuyer (report : Report) (verdict : WashVerdict) :
    (row.recordBuyer report verdict).Sound := by
  unfold ReputationRow.recordBuyer
  split
  · split
    · exact sound.succeed _ (by norm_num) (by norm_num)
    · split
      · exact sound
      · exact sound.flag _ (by norm_num)
  · split
    · exact sound.dispute (by norm_num)
    · exact sound

end ReputationRow.Sound

/-- The score or the number of successful tasks is higher than it was. -/
def ReputationRow.RaisedOver (row before : ReputationRow) : Prop :=
  before.score < row.score ∨ before.successfulTasks < row.successfulTasks

instance (row before : ReputationRow) : Decidable (row.RaisedOver before) :=
  inferInstanceAs (Decidable (_ ∨ _))

/-- Without credit a success raises nothing. -/
theorem credit_of_raised (sound : row.Sound) {report : Report} {verdict : WashVerdict}
    (success : report.success = true) (undisputed : report.disputed = false)
    (raised : (row.recordWorker report verdict).RaisedOver row) : verdict.credit = true := by
  by_contra denied
  have lower : ∀ penalty : ℚ, 0 ≤ penalty → max 0 (row.score - penalty) ≤ row.score :=
    fun penalty penal => max_le sound.score.1 (by linarith)
  simp only [ReputationRow.recordWorker, success, undisputed, denied] at raised
  have penal := lower (5 * verdict.flagsDelta) (by positivity)
  split at raised
  · split at raised
    · simp [ReputationRow.RaisedOver] at raised
    · rcases raised with score | tasks
      · exact absurd penal (not_le.mpr score)
      · exact lt_irrefl _ tasks
  · simp_all

end TrustChain.Reputation
