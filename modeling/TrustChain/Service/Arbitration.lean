import TrustChain.Service.Settlement

/-!
# The arbitration pool

A case is opened for a disputed task, arbitrators of the pool are assigned and vote, and the
decision is executed into the settlement.
-/

namespace TrustChain.Service

open Library

section Cases

variable (db : Db)

def getCaseSettlement (taskId : TaskId) : Except HttpError SettlementState :=
  findSettlement db taskId ("settlement " ++ taskId ++ " not found")

def Db.setCase (caseId : CaseId) (row : ArbitrationCase) : Db :=
  { db with cases := db.cases.set caseId row }

/-- Join the pool, in order of joining. Joining again only renews the stake. -/
def joinArbitrationPool (arbitratorIdentityId : IdentityId) : Except HttpError Db :=
  .ok { db with
    pool := if arbitratorIdentityId ∈ db.pool then db.pool
      else db.pool ++ [arbitratorIdentityId] }

structure CreateArbitrationCaseRequest where
  taskId : TaskId
  openedBy : IdentityId
  requiredArbitrators : Nat := 3
deriving DecidableEq

/-- A disputed settlement becomes arbitrated. -/
def arbitrateIfDisputed (request : Request) (state : SettlementState) : Except HttpError Db :=
  if state.status = .disputed then do
    require (canTransition state.status .arbitrated = true)
      ⟨409, "invalid settlement transition to arbitration"⟩
    saveSettlement 500 db (state.moveTo .arbitrated request.now)
  else .ok db

/-- Open a case under a fresh identifier. -/
def createArbitrationCase (request : Request) (caseId : CaseId)
    (body : CreateArbitrationCaseRequest) : Except HttpError Db := do
  require (1 ≤ body.requiredArbitrators ∧ body.requiredArbitrators ≤ 21)
    ⟨422, "required_arbitrators must be in [1, 21]"⟩
  require (db.cases.get caseId = none ∧ ∀ row ∈ db.cases.rows, row.2.taskId ≠ body.taskId)
    ⟨409, "arbitration case already exists for task " ++ body.taskId⟩
  let state ← getCaseSettlement db body.taskId
  require (state.status = .disputed ∨ state.status = .arbitrated)
    ⟨409, "settlement must be disputed before arbitration case creation"⟩
  let saved ← arbitrateIfDisputed db request state
  .ok (saved.setCase caseId {
    taskId := body.taskId
    openedBy := body.openedBy
    requiredArbitrators := body.requiredArbitrators })

/-- The row of a case. -/
def getCase (caseId : CaseId) : Except HttpError ArbitrationCase :=
  match db.cases.get caseId with
  | some row => .ok row
  | none => .error ⟨404, "arbitration case " ++ caseId ++ " not found"⟩

def assertNotFinalized (row : ArbitrationCase) : Except HttpError Unit :=
  require (row.status ≠ .decided ∧ row.status ≠ .executed)
    ⟨409, "arbitration case already finalized: " ++ row.status.value⟩

/-- Assign the first members of the pool that are not assigned yet. -/
def assignArbitrators (caseId : CaseId) (count : Nat) : Except HttpError Db := do
  require (1 ≤ count ∧ count ≤ 21) ⟨422, "count must be in [1, 21]"⟩
  let row ← getCase db caseId
  assertNotFinalized row
  let selected := (db.pool.filter fun member => (caseId, member) ∉ db.assignments).take count
  require (selected ≠ []) ⟨409, "no active arbitrators available for assignment"⟩
  let assigned := db.assignments ++ selected.map fun member => (caseId, member)
  .ok ({ db with assignments := assigned }.setCase caseId { row with status := .voting })

/-! ## Votes -/

def Db.votesOf (caseId : CaseId) : List ArbitrationVote :=
  db.votes.filter fun vote => vote.caseId = caseId

/-- The outcome of the votes, and the mean of the percentages if it is partial. -/
def tallyVotes (votes : List ArbitrationVote) : ArbitrationVoteDecision × Option ℚ :=
  let buyerVotes := votes.countP fun vote => vote.decision = .buyerWins
  let sellerVotes := votes.countP fun vote => vote.decision = .sellerWins
  if sellerVotes < buyerVotes then (.buyerWins, none)
  else if buyerVotes < sellerVotes then (.sellerWins, none)
  else
    let partialVotes := votes.filter fun vote => vote.decision = .partialSplit
    let values := partialVotes.filterMap ArbitrationVote.partialPercent
    (.partialSplit, some (if values = [] then 50 else cents (values.sum / values.length)))

def castVote (vote : ArbitrationVote) : Except HttpError Db := do
  require (∀ percent ∈ vote.partialPercent, 0 ≤ percent ∧ percent ≤ 100)
    ⟨422, "partial_percent must be in [0, 100]"⟩
  let row ← getCase db vote.caseId
  assertNotFinalized row
  require ((vote.caseId, vote.arbitratorIdentityId) ∈ db.assignments)
    ⟨403, "arbitrator is not assigned to this case"⟩
  require (¬(vote.decision = .partialSplit ∧ vote.partialPercent = none))
    ⟨400, "partial_percent is required when decision is partial"⟩
  require (¬(vote.decision ≠ .partialSplit ∧ vote.partialPercent ≠ none))
    ⟨400, "partial_percent is only allowed for partial decision"⟩
  require (∀ other ∈ db.votesOf vote.caseId,
      other.arbitratorIdentityId ≠ vote.arbitratorIdentityId)
    ⟨409, "duplicate vote for arbitrator in this case"⟩
  let cast := { db with votes := db.votes ++ [vote] }
  let votes := cast.votesOf vote.caseId
  if row.requiredArbitrators ≤ votes.length then
    let (outcome, percent) := tallyVotes votes
    .ok (cast.setCase vote.caseId { row with
      status := .decided, decidedOutcome := some outcome, finalPartialPercent := percent })
  else if row.status = .open_ then
    .ok (cast.setCase vote.caseId { row with status := .voting })
  else .ok cast

/-! ## Execution -/

/-- The target, the settled and the refunded amount of a decision. -/
def decisionSplit (outcome : ArbitrationVoteDecision) (finalPartialPercent : Option ℚ)
    (escrowAmount : ℚ) : TaskStatus × ℚ × ℚ :=
  match outcome with
  | .buyerWins => (.refunded, 0, cents escrowAmount)
  | .sellerWins => (.settled, cents escrowAmount, 0)
  | .partialSplit => (.settled, percentSplit escrowAmount (finalPartialPercent.getD 50))

def executeArbitrationCase (request : Request) (caseId : CaseId) : Except HttpError Db := do
  let row ← getCase db caseId
  require (row.status = .decided)
    ⟨409, "arbitration case status must be decided, got " ++ row.status.value⟩
  match row.decidedOutcome with
  | none => .error ⟨409, "arbitration decision is missing"⟩
  | some outcome =>
      let state ← getCaseSettlement db row.taskId
      require (state.status ≠ .disputed ∨ canTransition state.status .arbitrated = true)
        ⟨409, "cannot transition settlement to arbitration"⟩
      let status := if state.status = .disputed then TaskStatus.arbitrated else state.status
      let (target, settled, refunded) :=
        decisionSplit outcome row.finalPartialPercent state.escrowAmount
      require (canTransition status target = true)
        ⟨409, "invalid settlement transition: " ++ status.value ++ " -> " ++ target.value⟩
      let released := { state with
        releasedAmount := some settled
        refundedAmount := some refunded
        releasedAt := if 0 < settled then some request.now else none }
      let saved ← saveSettlement 500 db (released.moveTo target request.now)
      let resolved ← applyCapacityResolution saved state.clientAgentId state.escrowAmount
        settled refunded
      .ok ((markVoucherUsedIfLinked resolved row.taskId).setCase caseId
        { row with status := .executed })

end Cases

end TrustChain.Service
