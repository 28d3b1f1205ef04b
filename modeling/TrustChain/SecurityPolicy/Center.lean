import TrustChain.Library.OrderedTable
import TrustChain.Library.Outcome
import TrustChain.Library.Sha256
import TrustChain.Library.Transition

/-!
# The security policy center

Security threshold policies are created as drafts, made active, rolled out as candidates and rolled
back, each by a statement over all rows and a write to one. A change request does the same once
enough reviewers approve it.
-/

namespace TrustChain.SecurityPolicy

open Library

abbrev PolicyId := String

abbrev RequestId := String

abbrev ApproverId := String

/-- What `datetime.utcnow()` reads. -/
abbrev Time := Int

inductive SecurityThresholdPolicyStatus where
  | draft
  | active
  | candidate
  | archived
  deriving DecidableEq

structure SecurityThresholdPolicy where
  version : Nat
  status : SecurityThresholdPolicyStatus := .draft
  rolloutPercent : Int := 100
  activatedAt : Option Time := none
  archivedAt : Option Time := none
  deriving DecidableEq

abbrev Policies := OrderedTable PolicyId SecurityThresholdPolicy

/-! ## Queries -/

/-- `order_by(activated_at.desc(), version.desc())` puts `other` first. The queries that sort by it
read rows that were promoted, so where a missing `activated_at` goes does not matter. -/
def SecurityThresholdPolicy.before (row other : SecurityThresholdPolicy) : Bool :=
  match row.activatedAt, other.activatedAt with
  | none, none => row.version < other.version
  | none, some _ => true
  | some _, none => false
  | some first, some second => first < second || (first = second && row.version < other.version)

/-- The first row in that order. -/
def newest : List (PolicyId × SecurityThresholdPolicy) →
    Option (PolicyId × SecurityThresholdPolicy)
  | [] => none
  | row :: rest =>
      match newest rest with
      | none => some row
      | some best => some (if row.2.before best.2 then best else row)

def withStatus (policies : Policies) (status : SecurityThresholdPolicyStatus) :
    List (PolicyId × SecurityThresholdPolicy) :=
  policies.rows.filter fun row => row.2.status = status

/-- `select(func.max(version))`, zero without rows. -/
def maxVersion (policies : Policies) : Nat :=
  (policies.rows.map fun row => row.2.version).foldr max 0

/-! ## Writes -/

/-- `SecurityThresholdPolicyModel.__table__.update()` on one row. -/
def SecurityThresholdPolicy.archive (statuses : List SecurityThresholdPolicyStatus) (now : Time)
    (row : SecurityThresholdPolicy) : SecurityThresholdPolicy :=
  if row.status ∈ statuses then { row with status := .archived, archivedAt := some now } else row

/-- A flush writes the columns of a loaded row that were changed. -/
def column {α : Type*} [DecidableEq α] (loaded edited stored : α) : α :=
  if edited = loaded then stored else edited

/-- The statement over the table does not reach the row that the session has loaded: what the flush
compares the edited row with is the row as it was before the statement. -/
def SecurityThresholdPolicy.flush (loaded edited stored : SecurityThresholdPolicy) :
    SecurityThresholdPolicy where
  version := column loaded.version edited.version stored.version
  status := column loaded.status edited.status stored.status
  rolloutPercent := column loaded.rolloutPercent edited.rolloutPercent stored.rolloutPercent
  activatedAt := column loaded.activatedAt edited.activatedAt stored.activatedAt
  archivedAt := column loaded.archivedAt edited.archivedAt stored.archivedAt

/-- Archive the rows with these statuses, then give a loaded row its new status. -/
def promote (policies : Policies) (statuses : List SecurityThresholdPolicyStatus)
    (policyId : PolicyId) (loaded : SecurityThresholdPolicy)
    (status : SecurityThresholdPolicyStatus) (rolloutPercent : Int) (now : Time) : Policies :=
  (policies.map fun _ row => row.archive statuses now).modify policyId
    (loaded.flush { loaded with status, rolloutPercent, activatedAt := some now, archivedAt := none })

/-- A query parameter or column that is given and not empty. -/
def given (text : Option String) : Option String :=
  text.filter fun value => value ≠ ""

/-- The `ValueError` of a policy that is not there. -/
def found (policies : Policies) (policyId : PolicyId) (missing : String) :
    Except String SecurityThresholdPolicy :=
  match policies.get policyId with
  | none => .error missing
  | some row => .ok row

def createSecurityThresholdPolicy (policies : Policies) (policyId : PolicyId)
    (rolloutPercent : Int) : Except String Policies := do
  require (policies.get policyId = none) "UNIQUE constraint failed"
  .ok (policies.set policyId
    { version := maxVersion policies + 1, rolloutPercent := max 0 (min 100 rolloutPercent) })

def activateSecurityThresholdPolicy (policies : Policies) (policyId : PolicyId) (now : Time) :
    Except String Policies := do
  let row ← found policies policyId "policy not found"
  .ok (promote policies [.active, .candidate] policyId row .active 100 now)

def setCandidateSecurityThresholdPolicy (policies : Policies) (policyId : PolicyId)
    (rolloutPercent : Int) (now : Time) : Except String Policies := do
  require (1 ≤ rolloutPercent ∧ rolloutPercent ≤ 99)
    "rollout_percent must be between 1 and 99 for candidate rollout"
  let row ← found policies policyId "policy not found"
  .ok (promote policies [.candidate] policyId row .candidate rolloutPercent now)

/-- The policy that a rollback makes active. -/
def rollbackTarget (policies : Policies) (targetPolicyId : Option PolicyId) :
    Option (PolicyId × SecurityThresholdPolicy) :=
  match given targetPolicyId with
  | some policyId => (policies.get policyId).map (policyId, ·)
  | none => newest (withStatus policies .archived)

def rollbackSecurityThresholdPolicy (policies : Policies) (targetPolicyId : Option PolicyId)
    (now : Time) : Except String Policies := do
  match rollbackTarget policies targetPolicyId with
  | none => .error "rollback target policy not found"
  | some (policyId, row) =>
      .ok (promote policies [.active, .candidate] policyId row .active 100 now)

/-! ## Resolution -/

structure ResolveResult where
  policy : Option (PolicyId × SecurityThresholdPolicy) := none
  matchedCandidate : Bool := false
  actorId : Option String
  reason : String

def bucketForActor (actorId : String) : Nat :=
  ((sha256 actorId.toUTF8.data.toList).take 4).foldl (fun value byte => value * 256 + byte.toNat) 0
    % 100

/-- The resolution without an explicit policy. -/
def resolveRollout (active candidate : Option (PolicyId × SecurityThresholdPolicy))
    (actorId : Option String) : ResolveResult :=
  match active, candidate with
  | some active, _ =>
      { policy := some active, actorId, reason := "active_policy" }
  | none, some candidate =>
      { policy := some candidate, actorId, reason := "candidate_policy_fallback" }
  | none, none => { actorId, reason := "no_policy" }

def resolveSecurityThresholdPolicy (policies : Policies) (actorId : Option String)
    (explicitPolicyId : Option PolicyId) : ResolveResult :=
  match given explicitPolicyId with
  | some policyId =>
      match policies.get policyId with
      | none => { actorId, reason := "explicit_policy_not_found" }
      | some row =>
          { policy := some (policyId, row)
            matchedCandidate := row.status = .candidate
            actorId
            reason := "explicit_policy" }
  | none =>
      let active := newest (withStatus policies .active)
      let candidate := newest (withStatus policies .candidate)
      match candidate, given actorId with
      | some row, some actor =>
          if bucketForActor actor < row.2.rolloutPercent then
            { policy := some row, matchedCandidate := true, actorId,
              reason := "candidate_rollout_hit" }
          else resolveRollout active candidate actorId
      | _, _ => resolveRollout active candidate actorId

/-! ## Change requests -/

inductive SecurityPolicyChangeAction where
  | activate
  | setCandidate
  | rollback
  deriving DecidableEq

inductive SecurityPolicyChangeStatus where
  | pending
  | approved
  | rejected
  | applied
  | cancelled
  deriving DecidableEq

inductive SecurityPolicyApprovalDecision where
  | approve
  | reject
  deriving DecidableEq

structure SecurityPolicyChangeRequest where
  action : SecurityPolicyChangeAction
  status : SecurityPolicyChangeStatus := .pending
  targetPolicyId : Option PolicyId := none
  targetRollbackPolicyId : Option PolicyId := none
  rolloutPercent : Option Int := none
  requiredApprovals : Int := 2
  appliedAt : Option Time := none
  deriving DecidableEq

structure SecurityPolicyChangeApproval where
  decision : SecurityPolicyApprovalDecision
  createdAt : Time
  deriving DecidableEq

/-- The three tables. The unique constraint keeps one approval of each approver for a request. -/
structure Center where
  policies : Policies := .empty
  requests : OrderedTable RequestId SecurityPolicyChangeRequest := .empty
  approvals : OrderedTable (RequestId × ApproverId) SecurityPolicyChangeApproval := .empty

instance : Inhabited Center := ⟨{}⟩

/-- One of the three operations on policies that take effect. -/
inductive Operation where
  | activate (policyId : PolicyId)
  | setCandidate (policyId : PolicyId) (rolloutPercent : Int)
  | rollback (targetPolicyId : Option PolicyId)
  deriving DecidableEq

def operate (policies : Policies) (now : Time) : Operation → Except String Policies
  | .activate policyId => activateSecurityThresholdPolicy policies policyId now
  | .setCandidate policyId rolloutPercent =>
      setCandidateSecurityThresholdPolicy policies policyId rolloutPercent now
  | .rollback targetPolicyId => rollbackSecurityThresholdPolicy policies targetPolicyId now

/-- What `simulate_policy_change_dry_run` refuses. The reports that it compares have no effect. -/
def simulatePolicyChangeDryRun (policies : Policies) (body : SecurityPolicyChangeRequest) :
    Except String Unit :=
  match body.action with
  | .activate | .setCandidate =>
      match given body.targetPolicyId with
      | none => .error "target_policy_id is required for this action"
      | some policyId => do
          require (¬(body.action = .setCandidate ∧ body.rolloutPercent = none))
            "rollout_percent is required for candidate action"
          let _ ← found policies policyId "target policy not found"
          .ok ()
  | .rollback =>
      match given body.targetRollbackPolicyId with
      | none => .ok ()
      | some policyId => do
          let _ ← found policies policyId "rollback target policy not found"
          .ok ()

/-- `reportError` is the text of the error that the reports of the dry run raise, if any. -/
def createSecurityPolicyChangeRequest (center : Center) (requestId : RequestId)
    (body : SecurityPolicyChangeRequest) (reportError : Option String) : Except String Center := do
  simulatePolicyChangeDryRun center.policies body
  match reportError with
  | some error => .error error
  | none => do
      require (center.requests.get requestId = none) "UNIQUE constraint failed"
      .ok { center with
        requests := center.requests.set requestId
          { body with
            status := .pending
            requiredApprovals := max 1 body.requiredApprovals
            appliedAt := none } }

/-- How many approvals of a request have the decision. -/
def Center.count (center : Center) (requestId : RequestId)
    (decision : SecurityPolicyApprovalDecision) : Nat :=
  center.approvals.rows.countP fun row => row.1.1 = requestId ∧ row.2.decision = decision

def Center.getRequest (center : Center) (requestId : RequestId) :
    Except String SecurityPolicyChangeRequest :=
  match center.requests.get requestId with
  | none => .error "change request not found"
  | some row => .ok row

def reviewSecurityPolicyChangeRequest (center : Center) (requestId : RequestId)
    (approverId : ApproverId) (decision : SecurityPolicyApprovalDecision) (now : Time) :
    Except String Center := do
  let row ← center.getRequest requestId
  require (row.status ≠ .applied ∧ row.status ≠ .cancelled)
    "change request can no longer be reviewed"
  let center := { center with
    approvals := center.approvals.set (requestId, approverId) ⟨decision, now⟩ }
  let status : SecurityPolicyChangeStatus :=
    if 0 < center.count requestId .reject then .rejected
    else if row.requiredApprovals ≤ center.count requestId .approve then .approved
    else .pending
  .ok { center with requests := center.requests.set requestId { row with status } }

/-- The operation that a change request asks for. -/
def SecurityPolicyChangeRequest.operation (row : SecurityPolicyChangeRequest) :
    Except String Operation :=
  match row.action with
  | .activate =>
      match given row.targetPolicyId with
      | none => .error "activate request missing target policy"
      | some policyId => .ok (.activate policyId)
  | .setCandidate =>
      match given row.targetPolicyId with
      | none => .error "candidate request missing target policy"
      | some policyId =>
          -- `row.rollout_percent or 10`
          .ok (.setCandidate policyId ((row.rolloutPercent.filter (· ≠ 0)).getD 10))
  | .rollback => .ok (.rollback row.targetRollbackPolicyId)

def applySecurityPolicyChangeRequest (center : Center) (requestId : RequestId)
    (now appliedAt : Time) : Except String Center := do
  let row ← center.getRequest requestId
  require (row.status = .approved) "change request must be approved before apply"
  let operation ← row.operation
  let policies ← operate center.policies now operation
  .ok { center with
    policies
    requests := center.requests.set requestId
      { row with status := .applied, appliedAt := some appliedAt } }

/-! ## Runs -/

inductive Call where
  | createPolicy (policyId : PolicyId) (rolloutPercent : Int)
  | operate (operation : Operation)
  | createChange (requestId : RequestId) (body : SecurityPolicyChangeRequest)
      (reportError : Option String)
  | review (requestId : RequestId) (approverId : ApproverId)
      (decision : SecurityPolicyApprovalDecision)
  | apply (requestId : RequestId)
  deriving DecidableEq

/-- A call with the readings of the clock that it takes. -/
structure Action where
  call : Call
  now : Time
  appliedAt : Time
  deriving DecidableEq

def dispatch (center : Center) (action : Action) : Except String Center :=
  match action.call with
  | .createPolicy policyId rolloutPercent =>
      (fun policies => { center with policies }) <$>
        createSecurityThresholdPolicy center.policies policyId rolloutPercent
  | .operate operation =>
      (fun policies => { center with policies }) <$>
        operate center.policies action.now operation
  | .createChange requestId body reportError =>
      createSecurityPolicyChangeRequest center requestId body reportError
  | .review requestId approverId decision =>
      reviewSecurityPolicyChangeRequest center requestId approverId decision action.now
  | .apply requestId =>
      applySecurityPolicyChangeRequest center requestId action.now action.appliedAt

structure Review where
  requestId : RequestId
  approverId : ApproverId
  decision : SecurityPolicyApprovalDecision
  deriving DecidableEq

/-- What an observer of the calls writes down, the latest first: which policies became active and
when, the decisions of reviewers, and the requests that were applied. -/
structure Chronicle where
  reigns : List (PolicyId × Time) := []
  reviews : List Review := []
  applied : List RequestId := []

structure World where
  center : Center := {}
  clock : Time := 0
  chronicle : Chronicle := {}

instance : Inhabited World := ⟨{}⟩

/-- The policy that is active. -/
def activePolicy (policies : Policies) : Option PolicyId :=
  (policies.rows.find? fun row => row.2.status = .active).map Prod.fst

/-- A reign begins when the active policy is another than the last one. -/
def recordReign (reigns : List (PolicyId × Time)) (policies : Policies) (now : Time) :
    List (PolicyId × Time) :=
  match activePolicy policies with
  | none => reigns
  | some policyId =>
      if reigns.head?.map Prod.fst = some policyId then reigns else (policyId, now) :: reigns

def Chronicle.record (chronicle : Chronicle) (action : Action) (after : Center) : Chronicle where
  reigns := recordReign chronicle.reigns after.policies action.now
  reviews :=
    match action.call with
    | .review requestId approverId decision =>
        ⟨requestId, approverId, decision⟩ :: chronicle.reviews
    | _ => chronicle.reviews
  applied :=
    match action.call with
    | .apply requestId => requestId :: chronicle.applied
    | _ => chronicle.applied

/-- A call that raises is rolled back. The clock goes on. -/
def World.after (world : World) (action : Action) : World :=
  match dispatch world.center action with
  | .ok center =>
      { center, clock := action.appliedAt, chronicle := world.chronicle.record action center }
  | .error _ => { world with clock := action.appliedAt }

/-- The readings of the clock increase. -/
def Action.Timely (action : Action) (world : World) : Prop :=
  world.clock < action.now ∧ action.now < action.appliedAt

instance (action : Action) (world : World) : Decidable (action.Timely world) :=
  inferInstanceAs (Decidable (_ ∧ _))

def perform (world : World) (action : Action) : Option World :=
  if action.Timely world then some (world.after action) else none

/-- No policies and no requests, at any time. -/
def system : TransitionSystem World Action where
  Init world := world.center = {} ∧ world.chronicle = {}
  Step world action next := perform world action = some next

end TrustChain.SecurityPolicy
