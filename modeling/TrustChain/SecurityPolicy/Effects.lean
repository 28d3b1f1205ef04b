import TrustChain.SecurityPolicy.Center

/-!
# What a call makes of the policies

A call leaves the policies as they are, adds a draft, or promotes one policy. Promotion is
described row by row: which rows are archived, and what becomes of the row that is promoted.
-/

namespace TrustChain.SecurityPolicy

open Library

variable {policies after : Policies} {statuses : List SecurityThresholdPolicyStatus}
  {status : SecurityThresholdPolicyStatus} {policyId other : PolicyId}
  {row loaded : SecurityThresholdPolicy} {rolloutPercent : Int} {now : Time}

/-! ## The newest row -/

theorem newest_eq_none {rows : List (PolicyId × SecurityThresholdPolicy)} :
    newest rows = none ↔ rows = [] := by
  cases rows with
  | nil => simp [newest]
  | cons row rest =>
      cases later : newest rest <;> simp [newest, later]

theorem before_trans {first second third : SecurityThresholdPolicy}
    (later : ¬first.before second) (latest : ¬second.before third) : ¬first.before third := by
  revert later latest
  unfold SecurityThresholdPolicy.before
  cases first.activatedAt <;> cases second.activatedAt <;> cases third.activatedAt <;> grind

theorem before_asymm {first second : SecurityThresholdPolicy} (before : first.before second) :
    ¬second.before first := by
  revert before
  unfold SecurityThresholdPolicy.before
  cases first.activatedAt <;> cases second.activatedAt <;> grind

theorem before_irrefl (row : SecurityThresholdPolicy) : ¬row.before row :=
  fun before => before_asymm before before

/-- The newest row is one of the rows, and it comes before no other. -/
theorem newest_spec {rows : List (PolicyId × SecurityThresholdPolicy)}
    {best : PolicyId × SecurityThresholdPolicy} (chosen : newest rows = some best) :
    best ∈ rows ∧ ∀ row ∈ rows, ¬best.2.before row.2 := by
  induction rows generalizing best with
  | nil => cases chosen
  | cons first rest ih =>
      cases later : newest rest with
      | none =>
          obtain rfl := newest_eq_none.mp later
          obtain rfl : first = best := by simpa [newest] using chosen
          simpa using before_irrefl first.2
      | some second =>
          obtain ⟨inside, latest⟩ := ih later
          simp only [newest, later, Option.some.injEq] at chosen
          split at chosen
          case isTrue earlier =>
            subst chosen
            refine ⟨List.mem_cons_of_mem first inside, fun row listed => ?_⟩
            rcases List.mem_cons.mp listed with rfl | listed
            · exact before_asymm earlier
            · exact latest row listed
          case isFalse notEarlier =>
            subst chosen
            refine ⟨List.mem_cons_self, fun row listed => ?_⟩
            rcases List.mem_cons.mp listed with rfl | listed
            · exact before_irrefl row.2
            · exact before_trans notEarlier (latest row listed)

theorem mem_withStatus : (policyId, row) ∈ withStatus policies status ↔
    policies.get policyId = some row ∧ row.status = status := by
  simp [withStatus, OrderedTable.mem_rows_iff]

/-! ## Promotion -/

theorem column_eq {α : Type*} [DecidableEq α] (loaded edited : α) :
    column loaded edited loaded = edited := by
  unfold column
  split
  case isTrue same => exact same.symm
  case isFalse => rfl

/-- The row that is promoted, afterwards. -/
def SecurityThresholdPolicy.promoted (loaded : SecurityThresholdPolicy)
    (statuses : List SecurityThresholdPolicyStatus) (status : SecurityThresholdPolicyStatus)
    (rolloutPercent : Int) (now : Time) : SecurityThresholdPolicy :=
  loaded.flush { loaded with status, rolloutPercent, activatedAt := some now, archivedAt := none }
    (loaded.archive statuses now)

theorem get_promote (there : policies.get policyId = some loaded) :
    (promote policies statuses policyId loaded status rolloutPercent now).get other =
      if other = policyId then some (loaded.promoted statuses status rolloutPercent now)
      else (policies.get other).map (·.archive statuses now) := by
  rw [promote, OrderedTable.get_modify, OrderedTable.get_map]
  by_cases here : other = policyId
  · subst here
    simp [there, SecurityThresholdPolicy.promoted]
  · rw [if_neg here, Option.map_map]
    simp [here, Function.comp_def]

theorem get_promote_eq_some (there : policies.get policyId = some loaded) :
    (promote policies statuses policyId loaded status rolloutPercent now).get other = some row ↔
      other = policyId ∧ row = loaded.promoted statuses status rolloutPercent now ∨
      other ≠ policyId ∧ ∃ old, policies.get other = some old ∧ row = old.archive statuses now := by
  rw [get_promote there]
  split <;> simp_all [eq_comm]

@[simp] theorem archive_rolloutPercent :
    (row.archive statuses now).rolloutPercent = row.rolloutPercent := by
  unfold SecurityThresholdPolicy.archive
  split <;> rfl

@[simp] theorem archive_activatedAt :
    (row.archive statuses now).activatedAt = row.activatedAt := by
  unfold SecurityThresholdPolicy.archive
  split <;> rfl

theorem archive_status : (row.archive statuses now).status =
    if row.status ∈ statuses then .archived else row.status := by
  unfold SecurityThresholdPolicy.archive
  split <;> rfl

@[simp] theorem promoted_rolloutPercent :
    (loaded.promoted statuses status rolloutPercent now).rolloutPercent = rolloutPercent := by
  simp [SecurityThresholdPolicy.promoted, SecurityThresholdPolicy.flush, column_eq]

@[simp] theorem promoted_activatedAt :
    (loaded.promoted statuses status rolloutPercent now).activatedAt = some now := by
  simp [SecurityThresholdPolicy.promoted, SecurityThresholdPolicy.flush, column_eq]

/-- A policy that has the status already is archived by the statement, and the flush does not
write the status back. -/
theorem promoted_status (swept : status ∈ statuses) :
    (loaded.promoted statuses status rolloutPercent now).status =
      if loaded.status = status then .archived else status := by
  simp only [SecurityThresholdPolicy.promoted, SecurityThresholdPolicy.flush, column]
  by_cases same : loaded.status = status
  · rw [if_pos same.symm, if_pos same, archive_status, if_pos (same ▸ swept)]
  · rw [if_neg (Ne.symm same), if_neg same]

/-! ## Calls -/

/-- The policy that an operation promotes. -/
def Operation.target (policies : Policies) : Operation → Option PolicyId
  | .activate policyId => some policyId
  | .setCandidate policyId _ => some policyId
  | .rollback targetPolicyId => (rollbackTarget policies targetPolicyId).map Prod.fst

/-- The status that it gets. -/
def Operation.newStatus : Operation → SecurityThresholdPolicyStatus
  | .setCandidate _ _ => .candidate
  | .activate _ | .rollback _ => .active

/-- The statuses of the rows that are archived before. -/
def Operation.sweeps : Operation → List SecurityThresholdPolicyStatus
  | .setCandidate _ _ => [.candidate]
  | .activate _ | .rollback _ => [.active, .candidate]

/-- All of the traffic for the active policy, a part of it for a candidate. -/
def Operation.Percent (operation : Operation) (rolloutPercent : Int) : Prop :=
  rolloutPercent = 100 ↔ operation.newStatus = .active

theorem newStatus_mem_sweeps (operation : Operation) : operation.newStatus ∈ operation.sweeps := by
  cases operation <;> simp [Operation.newStatus, Operation.sweeps]

theorem found_eq_ok {missing : String} :
    found policies policyId missing = .ok row ↔ policies.get policyId = some row := by
  unfold found
  cases policies.get policyId <;> simp

theorem get_of_rollbackTarget {targetPolicyId : Option PolicyId}
    (chosen : rollbackTarget policies targetPolicyId = some (policyId, row)) :
    policies.get policyId = some row := by
  unfold rollbackTarget at chosen
  split at chosen
  · obtain ⟨found, there, same⟩ := Option.map_eq_some_iff.mp chosen
    obtain ⟨rfl, rfl⟩ := Prod.mk.inj same
    exact there
  · exact (mem_withStatus.mp (newest_spec chosen).1).1

theorem operate_ok {operation : Operation} (ran : operate policies now operation = .ok after) :
    ∃ policyId loaded rolloutPercent, operation.target policies = some policyId ∧
      policies.get policyId = some loaded ∧ operation.Percent rolloutPercent ∧
      after = promote policies operation.sweeps policyId loaded operation.newStatus rolloutPercent
        now := by
  cases operation with
  | activate policyId =>
      simp only [operate, activateSecurityThresholdPolicy, bind_eq_ok, found_eq_ok] at ran
      obtain ⟨loaded, there, written⟩ := ran
      exact ⟨policyId, loaded, 100, rfl, there, iff_of_true rfl rfl, (Except.ok.inj written).symm⟩
  | setCandidate policyId rolloutPercent =>
      simp only [operate, setCandidateSecurityThresholdPolicy, bind_eq_ok, require_eq_ok,
        found_eq_ok] at ran
      obtain ⟨_, bounds, loaded, there, written⟩ := ran
      have part : ¬rolloutPercent = 100 := by omega
      have candidate : ¬(Operation.setCandidate policyId rolloutPercent).newStatus = .active := by
        simp [Operation.newStatus]
      exact ⟨policyId, loaded, rolloutPercent, rfl, there, iff_of_false part candidate,
        (Except.ok.inj written).symm⟩
  | rollback targetPolicyId =>
      simp only [operate, rollbackSecurityThresholdPolicy] at ran
      split at ran
      · cases ran
      case h_2 policyId loaded chosen =>
        refine ⟨policyId, loaded, 100, ?_, get_of_rollbackTarget chosen, iff_of_true rfl rfl,
          (Except.ok.inj ran).symm⟩
        rw [Operation.target, chosen]
        rfl

/-- The operation that a call comes to, if it is let through to one. -/
def Call.operation (center : Center) : Call → Option Operation
  | .operate operation => some operation
  | .apply requestId =>
      ((center.requests.get requestId).filter fun row => row.status = .approved).bind
        fun row => row.operation.toOption
  | .createPolicy _ _ | .createChange _ _ _ | .review _ _ _ => none

/-- What a successful call makes of the policies. -/
inductive PolicyEffect (center : Center) (call : Call) (now : Time) : Policies → Prop
  | quiet : call.operation center = none → PolicyEffect center call now center.policies
  | created (policyId : PolicyId) (row : SecurityThresholdPolicy) :
      call.operation center = none → center.policies.get policyId = none → row.status = .draft →
      PolicyEffect center call now (center.policies.set policyId row)
  | promoted (operation : Operation) (policyId : PolicyId) (loaded : SecurityThresholdPolicy)
      (rolloutPercent : Int) :
      call.operation center = some operation →
      operation.target center.policies = some policyId →
      center.policies.get policyId = some loaded → operation.Percent rolloutPercent →
      PolicyEffect center call now
        (promote center.policies operation.sweeps policyId loaded operation.newStatus rolloutPercent
          now)

theorem getRequest_eq_ok {center : Center} {requestId : RequestId}
    {row : SecurityPolicyChangeRequest} :
    center.getRequest requestId = .ok row ↔ center.requests.get requestId = some row := by
  unfold Center.getRequest
  cases center.requests.get requestId <;> simp

theorem applySecurityPolicyChangeRequest_ok {center next : Center} {requestId : RequestId}
    {now appliedAt : Time}
    (ran : applySecurityPolicyChangeRequest center requestId now appliedAt = .ok next) :
    ∃ row operation policies, center.requests.get requestId = some row ∧
      row.status = .approved ∧ row.operation = .ok operation ∧
      operate center.policies now operation = .ok policies ∧
      next = { center with
        policies
        requests := center.requests.set requestId
          { row with status := .applied, appliedAt := some appliedAt } } := by
  simp only [applySecurityPolicyChangeRequest, bind_eq_ok, require_eq_ok, getRequest_eq_ok] at ran
  obtain ⟨row, there, _, approved, operation, asked, policies, done, written⟩ := ran
  exact ⟨row, operation, policies, there, approved, asked, done, (Except.ok.inj written).symm⟩

theorem createSecurityPolicyChangeRequest_ok {center next : Center} {requestId : RequestId}
    {body : SecurityPolicyChangeRequest} {reportError : Option String}
    (ran : createSecurityPolicyChangeRequest center requestId body reportError = .ok next) :
    center.requests.get requestId = none ∧
      next = { center with
        requests := center.requests.set requestId
          { body with
            status := .pending
            requiredApprovals := max 1 body.requiredApprovals
            appliedAt := none } } := by
  simp only [createSecurityPolicyChangeRequest, bind_eq_ok] at ran
  obtain ⟨_, -, ran⟩ := ran
  split at ran
  · cases ran
  · simp only [bind_eq_ok, require_eq_ok] at ran
    obtain ⟨_, fresh, written⟩ := ran
    exact ⟨fresh, (Except.ok.inj written).symm⟩

/-- The status of a request from its approvals. -/
def reviewedStatus (center : Center) (requestId : RequestId) (requiredApprovals : Int) :
    SecurityPolicyChangeStatus :=
  if 0 < center.count requestId .reject then .rejected
  else if requiredApprovals ≤ center.count requestId .approve then .approved
  else .pending

theorem reviewSecurityPolicyChangeRequest_ok {center next : Center} {requestId : RequestId}
    {approverId : ApproverId} {decision : SecurityPolicyApprovalDecision} {now : Time}
    (ran : reviewSecurityPolicyChangeRequest center requestId approverId decision now = .ok next) :
    ∃ row reviewed, center.requests.get requestId = some row ∧ row.status ≠ .applied ∧
      reviewed = { center with
        approvals := center.approvals.set (requestId, approverId) ⟨decision, now⟩ } ∧
      next = { reviewed with
        requests := center.requests.set requestId
          { row with status := reviewedStatus reviewed requestId row.requiredApprovals } } := by
  simp only [reviewSecurityPolicyChangeRequest, bind_eq_ok, require_eq_ok, getRequest_eq_ok] at ran
  obtain ⟨row, there, _, reviewable, written⟩ := ran
  exact ⟨row, _, there, reviewable.1, rfl, (Except.ok.inj written).symm⟩

theorem dispatch_effect {center next : Center} {action : Action}
    (ran : dispatch center action = .ok next) :
    PolicyEffect center action.call action.now next.policies := by
  obtain ⟨call, now, appliedAt⟩ := action
  cases call with
  | createPolicy policyId rolloutPercent =>
      obtain ⟨policies, made, rfl⟩ := map_eq_ok.mp ran
      simp only [createSecurityThresholdPolicy, bind_eq_ok, require_eq_ok] at made
      obtain ⟨_, fresh, written⟩ := made
      obtain rfl := Except.ok.inj written
      exact .created policyId _ rfl fresh rfl
  | operate operation =>
      obtain ⟨policies, done, rfl⟩ := map_eq_ok.mp ran
      obtain ⟨policyId, loaded, rolloutPercent, target, there, percent, rfl⟩ := operate_ok done
      exact .promoted operation policyId loaded rolloutPercent rfl target there percent
  | createChange requestId body reportError =>
      obtain ⟨-, rfl⟩ := createSecurityPolicyChangeRequest_ok ran
      exact .quiet rfl
  | review requestId approverId decision =>
      obtain ⟨row, reviewed, -, -, rfl, rfl⟩ := reviewSecurityPolicyChangeRequest_ok ran
      exact .quiet rfl
  | apply requestId =>
      obtain ⟨row, operation, policies, found, approved, asked, done, rfl⟩ :=
        applySecurityPolicyChangeRequest_ok ran
      obtain ⟨policyId, loaded, rolloutPercent, target, there, percent, rfl⟩ := operate_ok done
      refine .promoted operation policyId loaded rolloutPercent ?_ target there percent
      have admitted : (some row).filter (fun row => row.status = .approved) = some row := by
        simp [approved]
      rw [Call.operation, found, admitted]
      exact toOption_eq_some.mpr asked

theorem PolicyEffect.of_operation {center : Center} {call : Call} {operation : Operation}
    (effect : PolicyEffect center call now after)
    (asked : call.operation center = some operation) :
    ∃ policyId loaded rolloutPercent, operation.target center.policies = some policyId ∧
      center.policies.get policyId = some loaded ∧ operation.Percent rolloutPercent ∧
      after = promote center.policies operation.sweeps policyId loaded operation.newStatus
        rolloutPercent now := by
  cases effect with
  | quiet idle => cases asked.symm.trans idle
  | created policyId row idle => cases asked.symm.trans idle
  | promoted promoting policyId loaded rolloutPercent asked' target there percent =>
      obtain rfl := Option.some.inj (asked.symm.trans asked')
      exact ⟨policyId, loaded, rolloutPercent, target, there, percent, rfl⟩

end TrustChain.SecurityPolicy
