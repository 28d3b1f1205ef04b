import TrustChain.Library.Json
import TrustChain.Library.Sha256
import TrustChain.Service.Reports

/-!
# Progress reported step by step

A worker's reports on a task, with the buyer's confirmation after any of them. The first report
takes the settlement out of the one status in which progress can be submitted, and the
confirmation does not lead back, so that no second report is accepted.
-/

namespace TrustChain.Service

open Library

/-! ## Sequences of reports -/

/-- A report, and the confirmation after it, if there is one. -/
structure Report where
  request : Request
  progress : ProgressReceipt
  confirmation : Option Request

/-- The confirmation of a report that has been stored. If it is refused, nothing changes. -/
def Report.confirmed (report : Report) (db : Db) : Db :=
  match report.confirmation with
  | none => db
  | some request =>
      match confirmProgressReceipt request db report.progress.progressReceiptId with
      | .ok next => next
      | .error _ => db

/-- Submit reports, each with its confirmation, up to the first one that is refused. -/
def submitReports (db : Db) : List Report → Except HttpError Db
  | [] => .ok db
  | report :: rest => do
      let stored ← submitProgressReceipt report.request db report.progress
      submitReports (report.confirmed stored) rest

/-- Every report is accepted, and stored. -/
def Accepted (db : Db) (reports : List Report) : Prop :=
  ∃ next, submitReports db reports = .ok next ∧ ∀ report ∈ reports,
    (next.progress.get report.progress.progressReceiptId).map ProgressReceipt.reported =
      some report.progress.reported

/-- A report by the worker of a settlement within its rule, with a new identifier, and its
confirmation by the buyer. -/
structure Report.Admissible (db : Db) (row : SettlementState) (report : Report) : Prop where
  taskId : report.progress.taskId = row.taskId
  worker : row.workerAgentId = some report.progress.sellerIdentityId
  actor : report.request.actor = some report.progress.sellerIdentityId
  buyer : ∀ request ∈ report.confirmation, request.actor = some row.clientAgentId
  bounds : report.progress.WellFormed
  evidenceHash : isHex64 report.progress.evidenceHash = true
  runtimeLogHash : isHex64 report.progress.runtimeLogHash = true
  signed : report.progress.sellerSignature.toList.all Char.isWhitespace = false
  notAhead : report.progress.timestamp ≤
    report.request.now + max 0 report.request.config.receiptMaxFutureSkewSeconds
  notBehind : report.request.now - max 1 report.request.config.receiptMaxPastHours * 3600 ≤
    report.progress.timestamp
  fresh : db.progress.get report.progress.progressReceiptId = none
  curve : ∃ ceiling, maxAllowedClaimedValuePercent report.progress.progressPercent
    row.progressRuleSpec = .ok ceiling ∧ report.progress.claimedValuePercent ≤ ceiling

/-- Admissible reports that do not fall, over different evidence. -/
structure Progression (db : Db) (row : SettlementState) (reports : List Report) : Prop where
  admissible : ∀ report ∈ reports, report.Admissible db row
  rising : reports.Pairwise fun earlier later =>
    earlier.progress.progressReceiptId ≠ later.progress.progressReceiptId ∧
      earlier.progress.timestamp ≤ later.progress.timestamp ∧
      earlier.progress.progressPercent ≤ later.progress.progressPercent ∧
      earlier.progress.claimedValuePercent ≤ later.progress.claimedValuePercent ∧
      earlier.progress.reported.hashes ≠ later.progress.reported.hashes

section Sequences

variable {request : Request} {db next : Db} {row : SettlementState} {report : Report}
  {reports : List Report} {taskId : TaskId} {progress : ProgressReceipt}

/-! ## One report -/

theorem Report.Admissible.static (admissible : report.Admissible db row) :
    validateProgressReceiptStatic report.request report.progress = .ok () := by
  rw [validateProgressReceiptStatic, require_ok admissible.evidenceHash, ok_bind,
    require_ok admissible.runtimeLogHash, ok_bind, require_ok (.inr admissible.signed), ok_bind,
    require_ok admissible.notAhead, ok_bind, require_ok admissible.notBehind]

theorem Report.Admissible.claimed (admissible : report.Admissible db row) :
    validateClaimedAgainstCurve report.progress.progressPercent
      report.progress.claimedValuePercent row.progressRuleSpec = .ok () := by
  obtain ⟨ceiling, found, below⟩ := admissible.curve
  rw [validateClaimedAgainstCurve, found, ok_bind]
  have tolerance : (0 : ℚ) ≤ 1 / 10 ^ 6 := by norm_num
  exact require_ok (by linarith)

theorem Report.Admissible.identified (admissible : report.Admissible db row) :
    requireActorMatchesIdentity report.request report.progress.sellerIdentityId = .ok () := by
  rw [requireActorMatchesIdentity]
  split
  · rw [requireActor, admissible.actor]
    exact require_ok rfl
  · rfl

/-- Progress on a running settlement can be saved. -/
theorem saveRow_progressSubmitted (running : row.status = .inProgress) :
    saveRow (some row) { row.fromRow with status := .progressSubmitted } =
      .ok { row.fromRow with status := .progressSubmitted : SettlementState }.toRow := by
  have moves : canTransition (canonicalTaskStatus row.status) .progressSubmitted = true := by
    rw [running]
    decide
  have unchanged : row.changedField
      { row.fromRow with status := .progressSubmitted : SettlementState }.toRow = none := by
    simp [SettlementState.changedField, SettlementState.toRow, SettlementState.fromRow]
  simp only [saveRow, unchanged, ite_self]
  rw [require_ok (.inr moves)]
  rfl

/-- An admissible report that follows those on the task is accepted. -/
theorem Report.Admissible.accepted (admissible : report.Admissible db row)
    (there : db.settlements.get row.taskId = some row) (running : row.status = .inProgress)
    (few : (db.reports row.taskId).card ≤ 1)
    (follows : report.progress.reported.Follows (db.reports row.taskId)) :
    ∃ next, submitProgressReceipt report.request db report.progress = .ok next ∧
      next.progress.get report.progress.progressReceiptId = some report.progress := by
  rw [← admissible.taskId] at few follows there
  obtain ⟨unrolled, unused⟩ := (checks_eq_ok few).mpr follows
  have found : getTaskSettlement db report.progress.taskId = .ok row.fromRow :=
    getTaskSettlement_eq_ok.mpr ⟨row, there, rfl⟩
  have curve : validateClaimedAgainstCurve report.progress.progressPercent
      report.progress.claimedValuePercent row.fromRow.progressRuleSpec = .ok () :=
    admissible.claimed
  have worker : row.fromRow.workerAgentId = none ∨
      row.fromRow.workerAgentId = some report.progress.sellerIdentityId := .inr admissible.worker
  have moves : canTransition row.fromRow.status .progressSubmitted = true := by
    rw [fromRow_status, SettlementState.stage, running]
    decide
  have saved : saveSettlement 500 (db.setProgress report.progress)
      { row.fromRow with status := .progressSubmitted } =
      .ok ((db.setProgress report.progress).setSettlement
        { row.fromRow with status := .progressSubmitted : SettlementState }.toRow) := by
    have stored : (db.setProgress report.progress).settlements.get
        ({ row.fromRow with status := .progressSubmitted } : SettlementState).taskId =
        some row := by
      rw [admissible.taskId] at there
      exact there
    rw [saveSettlement, stored, saveRow_progressSubmitted running]
  have submitted : submitProgressReceipt report.request db report.progress =
      saveSettlement 500 (db.setProgress report.progress)
        { row.fromRow with status := .progressSubmitted } := by
    rw [submitProgressReceipt, require_ok admissible.bounds, ok_bind, admissible.static, ok_bind,
      require_ok admissible.fresh, ok_bind, unrolled, ok_bind, unused, ok_bind, found, ok_bind,
      admissible.identified, ok_bind, curve]
    simp only [Except.mapError, ok_bind]
    rw [require_ok worker, ok_bind, require_ok moves, ok_bind]
  exact ⟨_, submitted.trans saved, Table.get_set_self db.progress _ report.progress⟩

/-! ## No second report -/

/-- Progress can no longer be submitted on the task. -/
def Db.Past (db : Db) (taskId : TaskId) : Prop :=
  ∀ row, db.settlements.get taskId = some row → row.stage ≠ .inProgress

theorem past_of_setSettlement {later : SettlementState}
    (past : db.Past taskId ∨ later.taskId = taskId) (ended : later.stage ≠ .inProgress) :
    (db.setSettlement later).Past taskId := by
  intro row there
  rcases Table.get_set_eq_some.mp there with ⟨-, rfl⟩ | ⟨apart, there⟩
  · exact ended
  · rcases past with past | same
    · exact past row there
    · exact absurd same.symm apart

theorem submitted_past (wellFormed : db.WellFormed)
    (ran : submitProgressReceipt request db progress = .ok next) :
    next.Past progress.taskId := by
  obtain ⟨-, -, row, there, -, rfl⟩ := submitProgressReceipt_ok ran
  have keyed := wellFormed.keyed progress.taskId row there
  have ended : TaskStatus.progressSubmitted ≠ .inProgress := by decide
  exact past_of_setSettlement (.inr keyed) ended

theorem confirmed_past (past : db.Past taskId) (report : Report) :
    (report.confirmed db).Past taskId := by
  rw [Report.confirmed]
  split
  · exact past
  · split
    · rename_i confirmed
      obtain ⟨receipt, -, rfl | ⟨-, row, -, -, -, rfl⟩⟩ := confirmProgressReceipt_ok confirmed
      · exact past
      · have ended : TaskStatus.progressConfirmed ≠ .inProgress := by decide
        exact past_of_setSettlement (.inl past) ended
    · exact past

theorem refused_of_past (past : db.Past progress.taskId) :
    submitProgressReceipt request db progress ≠ .ok next := by
  intro ran
  obtain ⟨-, -, row, there, moves, -⟩ := submitProgressReceipt_ok ran
  have running := inProgress_of_canTransition moves
  apply past row there
  rw [← running]
  exact (stage_stage row).symm

/-! ## All reports -/

/-- The confirmation leaves what has been reported. -/
theorem confirmed_reported (report : Report) {receiptId : ReceiptId} {reported : Reported}
    (stored : (db.progress.get receiptId).map ProgressReceipt.reported = some reported) :
    ((report.confirmed db).progress.get receiptId).map ProgressReceipt.reported =
      some reported := by
  rw [Report.confirmed]
  split
  · exact stored
  · split
    · rename_i confirmed
      obtain ⟨receipt, there, rfl | ⟨-, row, -, -, -, rfl⟩⟩ := confirmProgressReceipt_ok confirmed
      · exact stored
      · simp only [Db.setSettlement, Table.get_set]
        split
        · rename_i same
          rw [same, there] at stored
          exact stored
        · exact stored
    · exact stored

theorem Progression.accepted_iff (progression : Progression db row reports)
    (wellFormed : db.WellFormed) (there : db.settlements.get taskId = some row)
    (running : row.status = .inProgress) (few : (db.reports taskId).card ≤ 1) :
    Accepted db reports ↔ reports = [] ∨ ∃ report, reports = [report] ∧
      report.progress.reported.Follows (db.reports taskId) := by
  have keyed := wellFormed.keyed taskId row there
  subst keyed
  constructor
  · rintro ⟨next, ran, -⟩
    cases reports with
    | nil => exact .inl rfl
    | cons report rest =>
        have admissible := progression.admissible report List.mem_cons_self
        obtain ⟨stored, submitted, ran⟩ := bind_eq_ok.mp ran
        rw [← admissible.taskId] at few
        have checked := (checks_eq_ok few).mp (submitProgressReceipt_checked submitted)
        rw [admissible.taskId] at checked
        cases rest with
        | nil => exact .inr ⟨report, rfl, checked⟩
        | cons second rest =>
            have again := progression.admissible second
              (List.mem_cons_of_mem report List.mem_cons_self)
            obtain ⟨_, resubmitted, -⟩ := bind_eq_ok.mp ran
            have past := confirmed_past (submitted_past wellFormed submitted) report
            rw [admissible.taskId, ← again.taskId] at past
            exact absurd resubmitted (refused_of_past past)
  · rintro (rfl | ⟨report, rfl, follows⟩)
    · exact ⟨db, rfl, by simp⟩
    · have admissible := progression.admissible report List.mem_cons_self
      obtain ⟨stored, submitted, found⟩ := admissible.accepted there running few follows
      refine ⟨report.confirmed stored, ?_, ?_⟩
      · rw [submitReports, submitted]
        rfl
      · intro other only
        cases List.mem_singleton.mp only
        apply confirmed_reported
        rw [found]
        rfl

end Sequences

theorem reporting_of_service {hexdigest : String → String} {config : Config}
    {start finish : World} {actions : List Action}
    (run : (system config).Run start actions finish) :
    (reporting hexdigest config).Run start (actions.map .service) finish := by
  induction run with
  | nil => exact .nil
  | snoc _ step ih =>
      rw [List.map_append]
      exact ih.snoc step

namespace Demo

/-- `hashlib.sha256(text.encode()).hexdigest()`. -/
def hexdigest (text : String) : String :=
  .ofList ((Library.sha256 text.toUTF8.toList).flatMap fun byte =>
    [Json.hexDigit (byte.toNat / 16), Json.hexDigit (byte.toNat % 16)])

/-- Work on a task over ten has started. -/
def working : Scene (perform {}) {} where
  actions := hire "t" none 10
  possible := by decide +kernel

theorem working_reachable : (reporting hexdigest {}).Reachable working.world :=
  ⟨{}, _, init_empty {}, reporting_of_service (scene_run working)⟩

def workingRow : SettlementState where
  taskId := "t"
  escrowAmount := 10
  status := .inProgress
  clientAgentId := buyer
  workerAgentId := some seller

theorem working_row : working.world.db.settlements.get "t" = some workingRow := by decide +kernel

/-- A report of a percentage, over evidence of its own, that the buyer confirms. -/
def reportOf (progressReceiptId : ReceiptId) (percent : ℚ) (digit : Char) : Report where
  request := { actor := some seller }
  progress := {
    progressReceiptId
    taskId := "t"
    sellerIdentityId := seller
    progressPercent := percent
    claimedValuePercent := percent
    evidenceHash := .ofList (List.replicate 64 digit)
    runtimeLogHash := .ofList (List.replicate 64 digit)
    timestamp := 0
    sellerSignature := "signature" }
  confirmation := some { actor := some buyer }

def thirty : Report := reportOf "p" 30 'a'

def sixty : Report := reportOf "q" 60 'b'

theorem thirty_admissible : thirty.Admissible working.world.db workingRow where
  taskId := rfl
  worker := rfl
  actor := rfl
  buyer _ confirming := Option.some.inj confirming ▸ rfl
  bounds := by decide +kernel
  evidenceHash := by decide +kernel
  runtimeLogHash := by decide +kernel
  signed := by decide +kernel
  notAhead := by decide +kernel
  notBehind := by decide +kernel
  fresh := by decide +kernel
  curve := ⟨30, rfl, le_rfl⟩

theorem sixty_admissible : sixty.Admissible working.world.db workingRow where
  taskId := rfl
  worker := rfl
  actor := rfl
  buyer _ confirming := Option.some.inj confirming ▸ rfl
  bounds := by decide +kernel
  evidenceHash := by decide +kernel
  runtimeLogHash := by decide +kernel
  signed := by decide +kernel
  notAhead := by decide +kernel
  notBehind := by decide +kernel
  fresh := by decide +kernel
  curve := ⟨60, rfl, le_rfl⟩

end Demo

end TrustChain.Service
