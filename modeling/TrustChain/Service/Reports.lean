import Mathlib.Algebra.Order.Group.Multiset
import TrustChain.Service.Frames

/-!
# The reports on a task

What the progress receipts of a task report, over the whole service and with the receipt that a
launch stores of its own. Once a report has been accepted, the settlement has left the statuses
in which one could be, and none of its transitions leads back there.
-/

namespace TrustChain.Service

open Library

/-! ## The launch -/

/-- The progress with which a launched trade starts. -/
def kickoffProgress (hexdigest : String → String) (now : ℚ) (progressReceiptId : ReceiptId)
    (taskId : TaskId) (sellerIdentityId : IdentityId) : ProgressReceipt where
  progressReceiptId
  taskId
  sellerIdentityId
  progressPercent := 5
  claimedValuePercent := 0
  evidenceHash := hexdigest ("progress-start:" ++ taskId)
  runtimeLogHash := hexdigest ("runtime-start:" ++ taskId)
  timestamp := now
  sellerSignature := "0xtrade_pipeline_progress"

section Launch

variable (hexdigest : String → String) (request : Request) (db : Db)
  (progressReceiptId : ReceiptId) (taskId : TaskId) (sellerIdentityId : IdentityId)

def kickoffSellerExecution : Except HttpError Db :=
  match db.settlements.get taskId with
  | none => .error ⟨500, "settlement missing for task " ++ taskId⟩
  | some _ => .ok (db.setProgress
      (kickoffProgress hexdigest request.now progressReceiptId taskId sellerIdentityId))

/-- The end of a launch: the first progress, and the start of the work. -/
def launchExecution : Except HttpError Db := do
  let started ←
    kickoffSellerExecution hexdigest request db progressReceiptId taskId sellerIdentityId
  let state ← getSettlement started taskId
  if state.status = .accepted then applyTransition request started state .inProgress
  else .ok started

end Launch

/-- The requests, and the launches. -/
inductive ReportingAction where
  | service (action : Action)
  | launch (request : Request) (progressReceiptId : ReceiptId) (taskId : TaskId)
      (sellerIdentityId : IdentityId)

/-- A launch has just locked the settlement of a new task, and draws a new identifier. -/
def Launching (db : Db) (progressReceiptId : ReceiptId) (taskId : TaskId) : Prop :=
  (db.settlements.get taskId).map SettlementState.stage = some .accepted ∧
    db.progressOf taskId = [] ∧ db.progress.get progressReceiptId = none

/-- The service with the launches. -/
def reporting (hexdigest : String → String) (config : Config) :
    TransitionSystem World ReportingAction where
  Init := (system config).Init
  Step world action next :=
    match action with
    | .service action => (system config).Step world action next
    | .launch request progressReceiptId taskId sellerIdentityId =>
        Launching world.db progressReceiptId taskId ∧
          ∃ db, launchExecution hexdigest request world.db progressReceiptId taskId
            sellerIdentityId = .ok db ∧ next = { world with db }

/-! ## What receipts report -/

/-- What the rules on progress compare. -/
structure Reported where
  timestamp : ℚ
  progressPercent : ℚ
  claimedValuePercent : ℚ
  evidenceHash : String
  runtimeLogHash : String
deriving DecidableEq

def ProgressReceipt.reported (progress : ProgressReceipt) : Reported where
  timestamp := progress.timestamp
  progressPercent := progress.progressPercent
  claimedValuePercent := progress.claimedValuePercent
  evidenceHash := progress.evidenceHash
  runtimeLogHash := progress.runtimeLogHash

def Reported.hashes (reported : Reported) : String × String :=
  (reported.evidenceHash, reported.runtimeLogHash)

/-- No percentage falls, up to the tolerance. -/
def Reported.Advances (earlier later : Reported) : Prop :=
  earlier.progressPercent ≤ later.progressPercent + epsilon ∧
    earlier.claimedValuePercent ≤ later.claimedValuePercent + epsilon

/-- Reports that can be put in the order of their times so that no step rolls back, and over
different evidence. -/
def Orderly (reports : Multiset Reported) : Prop :=
  ∃ ordered : List Reported, ↑ordered = reports ∧
    (ordered.Pairwise fun earlier later => earlier.timestamp ≤ later.timestamp) ∧
    ordered.IsChain Reported.Advances ∧ (ordered.map Reported.hashes).Nodup

/-- The reports on a task. -/
def Db.reports (db : Db) (taskId : TaskId) : Multiset Reported :=
  ↑((db.progressOf taskId).map ProgressReceipt.reported)

/-- What one receipt reports on a task. -/
def ProgressReceipt.on (taskId : TaskId) (progress : ProgressReceipt) : Multiset Reported :=
  if progress.taskId = taskId then {progress.reported} else 0

section Reports

variable {db : Db} {taskId : TaskId} {progress old : ProgressReceipt} {receiptId : ReceiptId}
  {table : Table ReceiptId ProgressReceipt}

theorem orderly_zero : Orderly 0 := ⟨[], rfl, .nil, .nil, List.nodup_nil⟩

theorem orderly_singleton (reported : Reported) : Orderly {reported} :=
  ⟨[reported], rfl, List.pairwise_singleton _ _, .singleton _, List.nodup_singleton _⟩

theorem reports_eq_total (db : Db) (taskId : TaskId) :
    db.reports taskId = db.progress.total fun _ row => row.on taskId := by
  rw [Db.reports, Db.progressOf, Table.total]
  induction db.progress.rows with
  | nil => rfl
  | cons row rows ih =>
      rw [List.map_cons, List.map_cons, List.sum_cons, ← ih, List.filter_cons, ProgressReceipt.on]
      by_cases here : row.2.taskId = taskId
      · rw [if_pos (decide_eq_true here), if_pos here, List.map_cons]
        rfl
      · rw [if_neg (by simpa using here), if_neg here, zero_add]

/-- Storing a new receipt. -/
theorem total_on_fresh (fresh : table.get receiptId = none) :
    ((table.set receiptId progress).total fun _ row => row.on taskId) =
      (table.total fun _ row => row.on taskId) + progress.on taskId := by
  have exchanged := table.total_set receiptId progress fun _ row => row.on taskId
  rw [fresh, Option.elim_none, add_zero] at exchanged
  exact exchanged

/-- Storing a receipt over one that reports the same. -/
theorem total_on_same (there : table.get receiptId = some old)
    (same : progress.on taskId = old.on taskId) :
    ((table.set receiptId progress).total fun _ row => row.on taskId) =
      table.total fun _ row => row.on taskId := by
  apply Table.total_set_same
  rw [there, same]
  rfl

/-- Confirmations report nothing new. -/
theorem total_on_confirmAll {now : ℚ} {receipts : List (ReceiptId × ProgressReceipt)}
    (listed : ∀ receipt ∈ receipts, ∃ old, table.get receipt.1 = some old ∧
      old.on taskId = receipt.2.on taskId) :
    ((confirmAll table now receipts).total fun _ row => row.on taskId) =
      table.total fun _ row => row.on taskId := by
  induction receipts generalizing table with
  | nil => rfl
  | cons receipt rest ih =>
      obtain ⟨old, there, same⟩ := listed receipt List.mem_cons_self
      have confirmed : (receipt.2.confirm now).on taskId = old.on taskId := same.symm
      rw [confirmAll, List.foldl_cons, ← confirmAll, ih, total_on_same there confirmed]
      intro other inside
      obtain ⟨before, found, agree⟩ := listed other (List.mem_cons_of_mem receipt inside)
      rw [Table.get_set]
      split
      · rename_i again
        rw [again, there] at found
        cases found
        exact ⟨_, rfl, confirmed.trans agree⟩
      · exact ⟨before, found, agree⟩

/-! ## One more report -/

/-- The report comes after the others, rolls none of them back and has evidence of its own. -/
def Reported.Follows (reports : Multiset Reported) (reported : Reported) : Prop :=
  ∀ earlier ∈ reports, earlier.timestamp ≤ reported.timestamp ∧ earlier.Advances reported ∧
    earlier.hashes ≠ reported.hashes

theorem exists_of_card_le_one {reports : Multiset Reported} (few : reports.card ≤ 1) :
    reports = 0 ∨ ∃ reported, reports = {reported} := by
  rcases Nat.le_one_iff_eq_zero_or_eq_one.mp few with none | one
  · exact .inl (Multiset.card_eq_zero.mp none)
  · exact .inr (Multiset.card_eq_one.mp one)

/-- A second report that follows the first. -/
theorem orderly_add {reports : Multiset Reported} {reported : Reported}
    (few : reports.card ≤ 1) (follows : reported.Follows reports) :
    Orderly (reports + {reported}) := by
  rcases exists_of_card_le_one few with rfl | ⟨earlier, rfl⟩
  · rw [zero_add]
    exact orderly_singleton reported
  · obtain ⟨later, advances, apart⟩ := follows earlier (Multiset.mem_singleton_self earlier)
    refine ⟨[earlier, reported], rfl, ?_, ?_, ?_⟩
    · exact List.pairwise_pair.mpr later
    · exact .cons_cons advances (.singleton reported)
    · simpa using apart

theorem assertFreshHashes_eq_ok {receipts : List ProgressReceipt} :
    assertFreshHashes receipts progress = .ok () ↔
      ∀ row ∈ receipts, row.reported.hashes ≠ progress.reported.hashes := by
  rw [assertFreshHashes]
  cases found : receipts.find? fun row =>
      row.evidenceHash = progress.evidenceHash ∧ row.runtimeLogHash = progress.runtimeLogHash with
  | none =>
      simpa [ProgressReceipt.reported, Reported.hashes] using found
  | some row =>
      have same := List.find?_some found
      simp only [reduceCtorEq, false_iff, not_forall, not_not]
      refine ⟨row, List.mem_of_find?_eq_some found, ?_⟩
      simpa [ProgressReceipt.reported, Reported.hashes] using same

/-- Over at most one receipt the checks of a submission say that it follows. -/
theorem checks_eq_ok (few : (db.reports progress.taskId).card ≤ 1) :
    assertNoRollback (latestProgress (db.progressOf progress.taskId)) progress = .ok () ∧
        assertFreshHashes (db.progressOf progress.taskId) progress = .ok () ↔
      progress.reported.Follows (db.reports progress.taskId) := by
  rw [assertFreshHashes_eq_ok, Db.reports] at *
  cases stored : db.progressOf progress.taskId with
  | nil => simp [latestProgress, assertNoRollback, Reported.Follows]
  | cons row rest =>
      have alone : rest = [] := by
        rw [stored] at few
        simpa using few
      have latest : latestProgress [row] = some row := by simp [latestProgress]
      subst alone
      rw [latest]
      simp only [assertNoRollback, require_bind_eq_ok, require_eq_ok]
      simp [Reported.Follows, Reported.Advances, ProgressReceipt.reported, and_assoc]

end Reports

/-! ## What every step keeps -/

/-- The statuses of a settlement on which no progress has been submitted. -/
def TaskStatus.Early (status : TaskStatus) : Prop :=
  status ∈ [TaskStatus.draft, .pending, .accepted, .inProgress]

instance : DecidablePred TaskStatus.Early := fun _ => inferInstanceAs (Decidable (_ ∈ _))

theorem early_of_mem {status : TaskStatus} :
    ∀ target ∈ validTransitions status, target.Early → status.Early := by
  cases status <;> decide

theorem inProgress_of_canTransition {status : TaskStatus}
    (moves : canTransition status .progressSubmitted = true) :
    canonicalTaskStatus status = .inProgress := by
  revert moves
  cases status <;> decide

/-- The reports on a task, as far as its settlement has got. -/
structure Db.Paced (db : Db) (taskId : TaskId) : Prop where
  missing : db.settlements.get taskId = none → db.reports taskId = 0
  early : ∀ row, db.settlements.get taskId = some row → row.status.Early →
    (db.reports taskId).card ≤ 1
  orderly : Orderly (db.reports taskId)

section Steps

variable {request : Request} {db next : Db} {call : Call} {core : Core} {evidence : Evidence}
  {taskId : TaskId} {progress : ProgressReceipt} {later : SettlementState}

/-- No request leads back to an early status. -/
theorem Effect.early_before (effect : Effect db call core) (wellFormed : db.WellFormed)
    (there : core.settlements.get taskId = some later) (early : later.status.Early) :
    db.settlements.get taskId = none ∨
      ∃ row, db.settlements.get taskId = some row ∧ row.status.Early := by
  have written {key : TaskId} {row : SettlementState}
      (there : (db.settlements.set key row).get taskId = some later)
      (before : key = taskId → row = later → db.settlements.get taskId = none ∨
        ∃ row, db.settlements.get taskId = some row ∧ row.status.Early) :
      db.settlements.get taskId = none ∨
        ∃ row, db.settlements.get taskId = some row ∧ row.status.Early := by
    rcases Table.get_set_eq_some.mp there with ⟨same, is⟩ | ⟨-, there⟩
    · exact before same.symm is.symm
    · exact .inr ⟨later, there, early⟩
  cases effect with
  | settlementCreated body row fresh =>
      apply written there
      rintro rfl -
      exact .inl fresh
  | moved call task row target _ stored _ working moves =>
      apply written there
      rintro rfl rfl
      have canonical := wellFormed.canonical task row stored
      rw [canTransition, working.canonical] at moves
      rw [SettlementState.stage] at canonical
      rw [canonical] at moves
      exact .inr ⟨row, stored, early_of_mem _ (List.contains_iff_mem.mp moves) early⟩
  | cancelled task row target _ _ ended
  | disputed call task row target cap _ _ _ ended
  | arbitrated call task row target _ _ _ ended =>
      apply written there
      rintro rfl rfl
      rw [ended] at early
      exact absurd early (by decide)
  | resolved call task row target settled refunded capacity _ _ _ ended =>
      apply written there
      rintro rfl rfl
      rcases ended with ended | ended <;> rw [ended] at early
      · exact absurd early (by decide)
      · exact absurd early (by decide)
  | _ => exact .inr ⟨later, there, early⟩

/-- No request deletes a settlement. -/
theorem Effect.none_before (effect : Effect db call core)
    (missing : core.settlements.get taskId = none) : db.settlements.get taskId = none := by
  have written {key : TaskId} {row : SettlementState}
      (missing : (db.settlements.set key row).get taskId = none) :
      db.settlements.get taskId = none := by
    rw [Table.get_set] at missing
    split at missing
    · cases missing
    · exact missing
  cases effect with
  | settlementCreated => exact written missing
  | moved => exact written missing
  | cancelled => exact written missing
  | disputed => exact written missing
  | arbitrated => exact written missing
  | resolved => exact written missing
  | _ => exact missing

/-- A request that submits nothing leaves the reports as they are. -/
theorem Gathered.reports (gathered : Gathered request db call evidence)
    (quiet : call.submission = none) (taskId : TaskId) :
    (evidence.progress.total fun _ row => row.on taskId) = db.reports taskId := by
  rw [reports_eq_total]
  cases gathered with
  | submitted progress submits => cases quiet.symm.trans submits
  | confirmed task row receipts stored buyer listed =>
      apply total_on_confirmAll
      intro receipt inside
      exact ⟨receipt.2, (listed receipt inside).1, rfl⟩
  | _ => rfl

theorem Db.Paced.dispatch (paced : db.Paced taskId) (wellFormed : db.WellFormed)
    (quiet : call.submission = none) (ran : dispatch request db call = .ok next) :
    next.Paced taskId := by
  obtain ⟨effect, gathered⟩ := dispatch_effect wellFormed ran
  have same : next.reports taskId = db.reports taskId :=
    (reports_eq_total next taskId).trans (gathered.reports quiet taskId)
  refine ⟨?_, ?_, same ▸ paced.orderly⟩
  · intro missing
    rw [same]
    exact paced.missing (effect.none_before missing)
  · intro later there early
    rw [same]
    rcases effect.early_before wellFormed there early with missing | ⟨row, before, was⟩
    · rw [paced.missing missing]
      exact Nat.zero_le 1
    · exact paced.early row before was

/-- What a submission has checked of the receipts. -/
theorem submitProgressReceipt_checked
    (ran : submitProgressReceipt request db progress = .ok next) :
    assertNoRollback (latestProgress (db.progressOf progress.taskId)) progress = .ok () ∧
      assertFreshHashes (db.progressOf progress.taskId) progress = .ok () := by
  simp only [submitProgressReceipt, bind_eq_ok] at ran
  obtain ⟨_, -, _, -, _, -, _, unrolled, _, fresh, -⟩ := ran
  exact ⟨unrolled, fresh⟩

/-- The reports after a new receipt and a move of its settlement. -/
theorem Db.Paced.store (progress : ProgressReceipt) (paced : ∀ taskId, db.Paced taskId)
    (fresh : db.progress.get progress.progressReceiptId = none)
    (progressed : next.progress = db.progress.set progress.progressReceiptId progress)
    (settled : next.settlements = db.settlements.set progress.taskId later)
    (few : (db.reports progress.taskId).card ≤ 1)
    (room : later.status.Early → db.reports progress.taskId = 0)
    (follows : progress.reported.Follows (db.reports progress.taskId)) (taskId : TaskId) :
    next.Paced taskId := by
  have stored : next.reports taskId = db.reports taskId + progress.on taskId := by
    rw [reports_eq_total, reports_eq_total, progressed, total_on_fresh fresh]
  by_cases here : progress.taskId = taskId
  · subst here
    have more : progress.on progress.taskId = {progress.reported} := if_pos rfl
    rw [more] at stored
    refine ⟨?_, ?_, ?_⟩
    · intro missing
      rw [settled, Table.get_set_self] at missing
      cases missing
    · intro row there early
      rw [settled, Table.get_set_self] at there
      cases there
      rw [stored, room early]
      exact le_rfl
    · rw [stored]
      exact orderly_add few follows
  · have none : progress.on taskId = 0 := if_neg here
    rw [none, add_zero] at stored
    have elsewhere : next.settlements.get taskId = db.settlements.get taskId := by
      rw [settled, Table.get_set_of_ne fun same => here same.symm]
    refine ⟨?_, ?_, ?_⟩
    · rw [elsewhere, stored]
      exact (paced taskId).missing
    · rw [elsewhere, stored]
      exact (paced taskId).early
    · rw [stored]
      exact (paced taskId).orderly

theorem submission_paced (paced : ∀ taskId, db.Paced taskId) (wellFormed : db.WellFormed)
    (ran : submitProgressReceipt request db progress = .ok next) (taskId : TaskId) :
    next.Paced taskId := by
  have checked := submitProgressReceipt_checked ran
  obtain ⟨-, fresh, row, there, moves, rfl⟩ := submitProgressReceipt_ok ran
  have keyed := wellFormed.keyed progress.taskId row there
  have canonical := wellFormed.canonical progress.taskId row there
  have running : row.status = .inProgress := by
    rw [← canonical, ← inProgress_of_canTransition moves, stage_stage]
  have few := (paced progress.taskId).early row there (by rw [running]; decide)
  have settled : db.settlements.set row.taskId
      { row.fromRow with status := .progressSubmitted : SettlementState }.toRow =
      db.settlements.set progress.taskId
        { row.fromRow with status := .progressSubmitted : SettlementState }.toRow := by rw [keyed]
  refine Db.Paced.store progress paced fresh rfl settled few ?_ ((checks_eq_ok few).mp checked) taskId
  have late : ¬TaskStatus.progressSubmitted.Early := by decide
  intro early
  exact absurd early late

theorem dispatch_paced (paced : ∀ taskId, db.Paced taskId) (wellFormed : db.WellFormed)
    (ran : dispatch request db call = .ok next) (taskId : TaskId) : next.Paced taskId := by
  cases call with
  | submitProgressReceipt progress => exact submission_paced paced wellFormed ran taskId
  | runtimeUpdateProgress progress keyIdentityId signature =>
      exact submission_paced paced wellFormed (runtimeUpdateProgress_ok ran) taskId
  | _ => exact (paced taskId).dispatch wellFormed rfl ran

end Steps

section Runs

variable {hexdigest : String → String} {config : Config} {request : Request} {db next : Db}
  {world : World} {receiptId : ReceiptId} {taskId : TaskId} {seller : IdentityId}

/-- What a launch stores: the first progress, and a settlement on which the work has started. -/
theorem launchExecution_ok (launching : Launching db receiptId taskId)
    (ran : launchExecution hexdigest request db receiptId taskId seller = .ok next) :
    ∃ row audits, db.settlements.get taskId = some row ∧ row.stage = .accepted ∧
      next = { db with
        progress := db.progress.set receiptId
          (kickoffProgress hexdigest request.now receiptId taskId seller)
        settlements := db.settlements.set row.taskId
          (row.fromRow.movedRow .inProgress request.now)
        audits } := by
  obtain ⟨locked, -, -⟩ := launching
  obtain ⟨row, there, accepted⟩ := Option.map_eq_some_iff.mp locked
  simp only [launchExecution, kickoffSellerExecution, there, ok_bind, bind_eq_ok,
    getSettlement_eq_ok] at ran
  obtain ⟨_, ⟨again, found, rfl⟩, ran⟩ := ran
  cases there.symm.trans found
  have locked : row.fromRow.status = .accepted := accepted
  rw [if_pos locked] at ran
  obtain ⟨-, audits, rfl⟩ := transition_ok ran
  exact ⟨row, audits, there, accepted, rfl⟩

theorem launch_paced (paced : ∀ taskId, db.Paced taskId) (wellFormed : db.WellFormed)
    (launching : Launching db receiptId taskId)
    (ran : launchExecution hexdigest request db receiptId taskId seller = .ok next)
    (other : TaskId) : next.Paced other := by
  obtain ⟨row, audits, there, -, rfl⟩ := launchExecution_ok launching ran
  obtain ⟨-, none, fresh⟩ := launching
  have keyed := wellFormed.keyed taskId row there
  have unreported : db.reports taskId = 0 := by
    rw [Db.reports, none]
    rfl
  have settled : db.settlements.set row.taskId (row.fromRow.movedRow .inProgress request.now) =
      db.settlements.set taskId (row.fromRow.movedRow .inProgress request.now) := by rw [keyed]
  refine Db.Paced.store (kickoffProgress hexdigest request.now receiptId taskId seller)
    paced fresh rfl settled ?_ (fun _ => unreported) ?_ other
  · exact unreported.symm ▸ Nat.zero_le 1
  · intro earlier member
    rw [show db.reports (kickoffProgress hexdigest request.now receiptId taskId seller).taskId = 0
      from unreported] at member
    exact absurd member (Multiset.notMem_zero earlier)

/-- A launch has the effect of a submission of its first progress. -/
theorem launch_wellFormed (wellFormed : db.WellFormed)
    (launching : Launching db receiptId taskId)
    (ran : launchExecution hexdigest request db receiptId taskId seller = .ok next) :
    next.WellFormed := by
  obtain ⟨row, audits, there, accepted, rfl⟩ := launchExecution_ok launching ran
  have keyed := wellFormed.keyed taskId row there
  exact {
    keyed := wellFormed.keyed.set rfl
    canonical := wellFormed.canonical.set rfl
    claims := wellFormed.claims.set ⟨le_rfl, by norm_num [kickoffProgress]⟩
    votes := wellFormed.votes
    cases := wellFormed.cases }

theorem paced_empty (taskId : TaskId) : ({} : Db).Paced taskId where
  missing _ := rfl
  early row there _ := by cases (Table.get_empty taskId).symm.trans there
  orderly := orderly_zero

theorem reporting_sound (reachable : (reporting hexdigest config).Reachable world) :
    world.db.WellFormed ∧ ∀ taskId, world.db.Paced taskId := by
  refine reachable.invariant ?_ ?_
  · intro world initial
    have empty : world.db = {} := initial
    rw [empty]
    exact ⟨wellFormed_empty, paced_empty⟩
  · intro world action next _ sound step
    obtain ⟨wellFormed, paced⟩ := sound
    cases action with
    | service action =>
        refine ⟨step_wellFormed wellFormed step, ?_⟩
        refine @step_db config world next action (fun db => ∀ taskId, db.Paced taskId) paced ?_ step
        intro request call db _ ran
        exact dispatch_paced paced wellFormed ran
    | launch request receiptId taskId seller =>
        obtain ⟨launching, db, ran, rfl⟩ := step
        exact ⟨launch_wellFormed wellFormed launching ran,
          launch_paced paced wellFormed launching ran⟩

end Runs

end TrustChain.Service
