import TrustChain.Service.Frames

/-!
# What requests make of a panel

The pool, the cases, who is assigned to them and how they voted. Five requests touch these
tables: joining the pool, opening a case, assigning arbitrators, voting and execution.
-/

namespace TrustChain.Service

open Library

/-- The tables that decide a case. -/
structure Panel where
  pool : List IdentityId
  cases : Table CaseId ArbitrationCase
  assignments : List (CaseId × IdentityId)
  votes : List ArbitrationVote

def Db.panel (db : Db) : Panel := ⟨db.pool, db.cases, db.assignments, db.votes⟩

def Panel.votesOf (panel : Panel) (caseId : CaseId) : List ArbitrationVote :=
  panel.votes.filter fun vote => vote.caseId = caseId

/-- A decided case takes no further votes. -/
def ArbitrationCase.Finalized (row : ArbitrationCase) : Prop :=
  row.status = .decided ∨ row.status = .executed

/-- A percentage comes with a partial decision, and with no other. -/
def ArbitrationVote.Lawful (vote : ArbitrationVote) : Prop :=
  (vote.decision = .partialSplit ↔ vote.partialPercent.isSome) ∧
    ∀ percent ∈ vote.partialPercent, 0 ≤ percent ∧ percent ≤ 100

/-- The case with its decision. -/
def ArbitrationCase.decide (row : ArbitrationCase) (votes : List ArbitrationVote) :
    ArbitrationCase :=
  { row with
    status := .decided
    decidedOutcome := some (tallyVotes votes).1
    finalPartialPercent := (tallyVotes votes).2 }

/-- What a vote makes of the row of its case, given the votes with it. -/
def ArbitrationCase.afterVote (row : ArbitrationCase) (votes : List ArbitrationVote) :
    ArbitrationCase :=
  if row.requiredArbitrators ≤ votes.length then row.decide votes
  else if row.status = .open_ then { row with status := .voting } else row

theorem ArbitrationCase.afterVote_taskId (row : ArbitrationCase) (votes : List ArbitrationVote) :
    (row.afterVote votes).taskId = row.taskId := by
  unfold ArbitrationCase.afterVote
  split_ifs <;> rfl

/-- A case as it is opened. -/
def CreateArbitrationCaseRequest.opens (body : CreateArbitrationCaseRequest) : ArbitrationCase where
  taskId := body.taskId
  openedBy := body.openedBy
  requiredArbitrators := body.requiredArbitrators

/-- The effect of a successful request on the tables that decide a case. -/
inductive PanelEffect (db : Db) (call : Call) : Panel → Prop
  | quiet : PanelEffect db call db.panel
  | joined (member : IdentityId) :
      PanelEffect db call { db.panel with pool := db.pool ++ [member] }
  | opened (caseId : CaseId) (body : CreateArbitrationCaseRequest) :
      call = .createArbitrationCase caseId body → 1 ≤ body.requiredArbitrators →
      db.cases.get caseId = none →
      (∀ other old, db.cases.get other = some old → old.taskId ≠ body.taskId) →
      PanelEffect db call { db.panel with cases := db.cases.set caseId body.opens }
  | assigned (caseId : CaseId) (row : ArbitrationCase) (members : List IdentityId) :
      db.cases.get caseId = some row → ¬row.Finalized → (∀ member ∈ members, member ∈ db.pool) →
      PanelEffect db call
        { db.panel with
          cases := db.cases.set caseId { row with status := .voting }
          assignments := db.assignments ++ members.map fun member => (caseId, member) }
  | voted (vote : ArbitrationVote) (row : ArbitrationCase) (cases : Table CaseId ArbitrationCase) :
      db.cases.get vote.caseId = some row → ¬row.Finalized → vote.Lawful →
      (vote.caseId, vote.arbitratorIdentityId) ∈ db.assignments →
      (∀ other ∈ db.votesOf vote.caseId,
        other.arbitratorIdentityId ≠ vote.arbitratorIdentityId) →
      (∀ caseId, cases.get caseId =
        (db.cases.set vote.caseId (row.afterVote (db.votesOf vote.caseId ++ [vote]))).get caseId) →
      PanelEffect db call { db.panel with cases, votes := db.votes ++ [vote] }
  | executed (caseId : CaseId) (row : ArbitrationCase) :
      db.cases.get caseId = some row → row.status = .decided →
      PanelEffect db call
        { db.panel with cases := db.cases.set caseId { row with status := .executed } }

section Requests

variable {request : Request} {db next : Db} {call : Call} {caseId : CaseId}
  {row : ArbitrationCase} {vote : ArbitrationVote} {count : Nat}
  {body : CreateArbitrationCaseRequest}

theorem assertNotFinalized_eq_ok : assertNotFinalized row = .ok () ↔ ¬row.Finalized := by
  rw [assertNotFinalized, require_eq_ok, ArbitrationCase.Finalized, not_or]

theorem Db.votesOf_cast (db : Db) (vote : ArbitrationVote) :
    { db with votes := db.votes ++ [vote] : Db }.votesOf vote.caseId =
      db.votesOf vote.caseId ++ [vote] := by
  simp [Db.votesOf, List.filter_append]

/-- The row that a table has under a key can be stored there again. -/
theorem get_set_again (table : Table CaseId ArbitrationCase) (there : table.get caseId = some row)
    (key : CaseId) : table.get key = (table.set caseId row).get key := by
  rw [Table.get_set]
  split
  case isTrue same => rw [same, there]
  case isFalse => rfl

theorem createArbitrationCase_panel
    (ran : createArbitrationCase db request caseId body = .ok next) :
    PanelEffect db (.createArbitrationCase caseId body) next.panel := by
  have staffed : 1 ≤ body.requiredArbitrators ∧
      ∀ other old, db.cases.get other = some old → old.taskId ≠ body.taskId := by
    simp only [createArbitrationCase, bind_eq_ok, require_eq_ok] at ran
    obtain ⟨_, bounds, _, fresh, -⟩ := ran
    exact ⟨bounds.1, fun other old found => fresh.2 (other, old) (Table.mem_rows_iff.mpr found)⟩
  obtain ⟨fresh, old, saved, -, stored, rfl⟩ := createArbitrationCase_ok ran
  rcases stored with rfl | ⟨-, rfl⟩
  · exact .opened caseId body rfl staffed.1 fresh staffed.2
  · exact .opened caseId body rfl staffed.1 fresh staffed.2

theorem assignArbitrators_panel (ran : assignArbitrators db caseId count = .ok next) :
    PanelEffect db call next.panel := by
  simp only [assignArbitrators, bind_eq_ok, require_eq_ok, getCase_eq_ok] at ran
  obtain ⟨_, -, row, found, _, unfinished, _, -, assigned⟩ := ran
  obtain rfl := Except.ok.inj assigned
  refine .assigned caseId row _ found (assertNotFinalized_eq_ok.mp unfinished) ?_
  intro member chosen
  exact (List.mem_filter.mp (List.mem_of_mem_take chosen)).1

theorem castVote_panel (ran : castVote db vote = .ok next) : PanelEffect db call next.panel := by
  simp only [castVote, bind_eq_ok, require_eq_ok, getCase_eq_ok] at ran
  obtain ⟨_, bounded, row, found, _, unfinished, _, assigned, _, given, _, refused, _, once, ran⟩ :=
    ran
  have lawful : vote.Lawful := by
    refine ⟨?_, bounded⟩
    cases decision : vote.decision <;> cases percent : vote.partialPercent <;> simp_all
  have open_ := assertNotFinalized_eq_ok.mp unfinished
  rw [Db.votesOf_cast] at ran
  split at ran
  case isTrue decides =>
    obtain rfl := Except.ok.inj ran
    refine .voted vote row _ found open_ lawful assigned once fun key => ?_
    rw [ArbitrationCase.afterVote, if_pos decides]
    rfl
  case isFalse waits =>
    split at ran
    case isTrue first =>
      obtain rfl := Except.ok.inj ran
      refine .voted vote row _ found open_ lawful assigned once fun key => ?_
      rw [ArbitrationCase.afterVote, if_neg waits, if_pos first]
      rfl
    case isFalse later =>
      obtain rfl := Except.ok.inj ran
      refine .voted vote row _ found open_ lawful assigned once fun key => ?_
      rw [ArbitrationCase.afterVote, if_neg waits, if_neg later]
      exact get_set_again db.cases found key

theorem executeArbitrationCase_decided
    (ran : executeArbitrationCase db request caseId = .ok next) :
    ∃ case_, db.cases.get caseId = some case_ ∧ case_.status = .decided := by
  simp only [executeArbitrationCase, bind_eq_ok, require_eq_ok, getCase_eq_ok] at ran
  obtain ⟨case_, found, _, decided, -⟩ := ran
  exact ⟨case_, found, decided⟩

theorem dispatch_panel (wellFormed : db.WellFormed) (ran : dispatch request db call = .ok next) :
    PanelEffect db call next.panel := by
  cases call with
  | lockUsdc =>
      obtain ⟨-, rfl⟩ := lockUsdc_ok ran
      exact .quiet
  | releaseUnused =>
      obtain ⟨cap, -, -, -, rfl⟩ := releaseUnused_ok ran
      exact .quiet
  | allocate =>
      obtain ⟨profiles, rfl⟩ := allocate_ok ran
      exact .quiet
  | createVoucher =>
      obtain ⟨-, -, profiles, rfl⟩ := createVoucher_ok ran
      exact .quiet
  | acceptVoucher =>
      obtain ⟨voucher, -, accepted⟩ := acceptVoucher_ok ran
      obtain ⟨-, cap, -, -, rfl⟩ := acceptVoucherRow_ok accepted
      exact .quiet
  | acceptPaymentCode =>
      obtain ⟨voucher, -, accepted⟩ := acceptPaymentCode_ok ran
      obtain ⟨-, cap, -, -, rfl⟩ := acceptVoucherRow_ok accepted
      exact .quiet
  | rejectPaymentCode =>
      obtain ⟨voucher, -, -, rfl⟩ := rejectPaymentCode_ok ran
      exact .quiet
  | createSettlement =>
      obtain ⟨-, -, voucher, audits, rfl⟩ := createSettlement_ok ran
      exact .quiet
  | markSettlementPending | startSettlement | submitSettlement | failSettlement =>
      obtain ⟨old, -, moved⟩ := movesOn_ok ran rfl
      obtain ⟨-, audits, rfl⟩ := transition_ok moved
      exact .quiet
  | lockSettlement =>
      obtain ⟨old, -, moved⟩ := lockSettlement_ok ran
      obtain ⟨-, audits, rfl⟩ := transition_ok moved
      exact .quiet
  | partialSettlement =>
      obtain ⟨old, -, -, -, ran⟩ := partialSettlement_ok ran
      obtain ⟨-, capacity, audits, -, rfl⟩ := finalize_ok ran
      exact .quiet
  | regretSettlement =>
      obtain ⟨old, -, ran⟩ := regretSettlement_ok ran
      obtain ⟨-, capacity, audits, -, rfl⟩ := finalize_ok ran
      exact .quiet
  | openDispute =>
      obtain ⟨old, moved, -, froze, ran⟩ := openDispute_ok ran
      obtain ⟨cap, -, -, rfl⟩ := moveReservedToDisputed_ok froze
      obtain ⟨-, audits, rfl⟩ := transition_ok ran
      exact .quiet
  | buyerAcceptSettlement =>
      obtain ⟨old, -, -, ran⟩ := buyerAcceptSettlement_ok ran
      obtain ⟨-, capacity, audits, profiles, -, rfl⟩ := finalizeFull_ok ran
      exact .quiet
  | autoConfirmSettlement => exact absurd ran autoConfirmSettlement_refused
  | buyerRejectSettlement =>
      obtain ⟨old, moved, -, froze, ran⟩ := buyerRejectSettlement_ok ran
      obtain ⟨cap, -, -, rfl⟩ := moveReservedToDisputed_ok froze
      obtain ⟨-, audits, rfl⟩ := transition_ok ran
      exact .quiet
  | autoArbitrate =>
      obtain ⟨old, arbitrated, -, moved, state, ran, -, -⟩ := autoArbitrate_ok ran
      obtain ⟨-, audits, rfl⟩ := transition_ok moved
      obtain ⟨-, capacity, audits, -, rfl⟩ := finalize_ok ran
      exact .quiet
  | submitProgressReceipt =>
      obtain ⟨-, -, old, -, -, rfl⟩ := submitProgressReceipt_ok ran
      exact .quiet
  | runtimeUpdateProgress =>
      obtain ⟨-, -, old, -, -, rfl⟩ := submitProgressReceipt_ok (runtimeUpdateProgress_ok ran)
      exact .quiet
  | confirmProgressReceipt =>
      obtain ⟨receipt, -, rfl | ⟨-, old, -, -, -, rfl⟩⟩ := confirmProgressReceipt_ok ran
      · exact .quiet
      · exact .quiet
  | timeoutConfirmProgress =>
      obtain ⟨old, -, -, rfl | ⟨-, rfl⟩⟩ := timeoutConfirmProgress_ok ran
      · exact .quiet
      · exact .quiet
  | joinArbitrationPool member =>
      obtain rfl := Except.ok.inj ran
      by_cases inside : member ∈ db.pool
      · simp only [if_pos inside]
        exact .quiet
      · simp only [if_neg inside]
        exact .joined member
  | createArbitrationCase => exact createArbitrationCase_panel ran
  | assignArbitrators => exact assignArbitrators_panel ran
  | castVote => exact castVote_panel ran
  | executeArbitrationCase id =>
      obtain ⟨row, found, decided⟩ := executeArbitrationCase_decided ran
      obtain ⟨again, outcome, settlement, there, -, -, capacity, -, -, rfl⟩ :=
        executeArbitrationCase_ok wellFormed.keyed ran
      obtain rfl := Option.some.inj (found.symm.trans there)
      exact .executed id row found decided
  | storeContract | storeReceipt | storeRoleProfile =>
      obtain rfl := Except.ok.inj ran
      exact .quiet

end Requests

end TrustChain.Service
