import TrustChain.SecurityPolicy.Effects

/-!
# Who governs

At most one policy is active and at most one is a candidate, whatever is called. An active policy
that is promoted again is archived instead, and a rollback takes the policy that was promoted last
among the archived ones, be it a candidate. Where calls do neither, there is always an active
policy, and a rollback restores the one before.
-/

namespace TrustChain.SecurityPolicy

open Library

/-! ## At most one -/

section AtMostOne

variable {policies : Policies} {statuses : List SecurityThresholdPolicyStatus}
  {status : SecurityThresholdPolicyStatus} {policyId other : PolicyId}
  {row loaded : SecurityThresholdPolicy} {rolloutPercent : Int} {now : Time}

/-- No two policies have the status. -/
def AtMostOne (policies : Policies) (status : SecurityThresholdPolicyStatus) : Prop :=
  ∀ first second row row', policies.get first = some row → policies.get second = some row' →
    row.status = status → row'.status = status → first = second

/-- A row that is not archived after a promotion is the promoted one, or it was not swept. -/
theorem status_of_promote (swept : status ∈ statuses) (there : policies.get policyId = some loaded)
    (after : (promote policies statuses policyId loaded status rolloutPercent now).get other =
      some row) (kept : row.status ≠ .archived) :
    (other = policyId ∧ row.status = status) ∨ (other ≠ policyId ∧ ∃ old,
      policies.get other = some old ∧ old.status = row.status ∧ old.status ∉ statuses) := by
  rcases (get_promote_eq_some there).mp after with ⟨here, rfl⟩ | ⟨elsewhere, old, found, rfl⟩
  · rw [promoted_status swept] at kept ⊢
    split at kept
    · exact absurd rfl kept
    case isFalse other_ => exact .inl ⟨here, if_neg other_⟩
  · rw [archive_status] at kept ⊢
    split at kept
    · exact absurd rfl kept
    case isFalse unswept => exact .inr ⟨elsewhere, old, found, (if_neg unswept).symm, unswept⟩

theorem AtMostOne.promote {kept : SecurityThresholdPolicyStatus} (before : AtMostOne policies kept)
    (swept : status ∈ statuses) (there : policies.get policyId = some loaded)
    (live : kept ≠ .archived) :
    AtMostOne (promote policies statuses policyId loaded status rolloutPercent now) kept := by
  intro first second row row' found found' same same'
  have first_ := status_of_promote swept there found (same ▸ live)
  have second_ := status_of_promote swept there found' (same' ▸ live)
  rcases first_ with ⟨rfl, new⟩ | ⟨-, old, was, unchanged, unswept⟩
  · rcases second_ with ⟨rfl, -⟩ | ⟨-, old', -, unchanged', unswept'⟩
    · rfl
    · rw [unchanged', same', ← same, new] at unswept'
      exact absurd swept unswept'
  · rcases second_ with ⟨rfl, new⟩ | ⟨-, old', was', unchanged', -⟩
    · rw [unchanged, same, ← same', new] at unswept
      exact absurd swept unswept
    · exact before first second old old' was was' (unchanged.trans same) (unchanged'.trans same')

theorem AtMostOne.effect {center : Center} {call : Call} {after : Policies}
    (before : AtMostOne center.policies status) (effect : PolicyEffect center call now after)
    (live : status ≠ .archived) (used : status ≠ .draft) : AtMostOne after status := by
  cases effect with
  | quiet => exact before
  | created policyId row _ _ draft =>
      intro first second left right found found' same same'
      rw [OrderedTable.get_set] at found found'
      split at found
      · obtain rfl := Option.some.inj found
        exact absurd (same.symm.trans draft) used
      · split at found'
        · obtain rfl := Option.some.inj found'
          exact absurd (same'.symm.trans draft) used
        · exact before first second left right found found' same same'
  | promoted operation policyId loaded rolloutPercent _ _ there _ =>
      exact before.promote (newStatus_mem_sweeps operation) there live

theorem activePolicy_eq_some (one : AtMostOne policies .active) :
    activePolicy policies = some policyId ↔
      ∃ row, policies.get policyId = some row ∧ row.status = .active := by
  unfold activePolicy
  constructor
  · intro chosen
    obtain ⟨⟨_, row⟩, found, rfl⟩ := Option.map_eq_some_iff.mp chosen
    have inside := List.mem_of_find?_eq_some found
    have active := List.find?_some found
    exact ⟨row, OrderedTable.mem_rows_iff.mp inside, of_decide_eq_true active⟩
  · rintro ⟨row, there, active⟩
    have listed := OrderedTable.mem_rows_iff.mpr there
    cases chosen : policies.rows.find? fun row => row.2.status = .active with
    | none =>
        have none_ := List.find?_eq_none.mp chosen (policyId, row) listed
        exact absurd (decide_eq_true active) none_
    | some entry =>
        have inside := OrderedTable.mem_rows_iff.mp (List.mem_of_find?_eq_some chosen)
        have found := List.find?_some chosen
        have active' : entry.2.status = .active := of_decide_eq_true found
        rw [Option.map_some, one entry.1 policyId entry.2 row inside there active' active]

end AtMostOne

/-! ## Change requests -/

section Requests

/-- The last decision of an approver on a request. -/
def latestDecision (reviews : List Review) (requestId : RequestId) (approverId : ApproverId) :
    Option SecurityPolicyApprovalDecision :=
  (reviews.find? fun review => review.requestId = requestId ∧ review.approverId = approverId).map
    Review.decision

/-- Enough different approvers approve last, and none rejects last. -/
def Quorum (world : World) (requestId : RequestId) : Prop :=
  ∃ row, ∃ approvers : List ApproverId,
    world.center.requests.get requestId = some row ∧ approvers.Nodup ∧
    row.requiredApprovals ≤ approvers.length ∧
    (∀ approver ∈ approvers,
      latestDecision world.chronicle.reviews requestId approver = some .approve) ∧
    ∀ approver, latestDecision world.chronicle.reviews requestId approver ≠ some .reject

/-- The approvals are the last decisions, and the statuses of the requests count them. -/
structure World.Counted (world : World) : Prop where
  latest : ∀ requestId approverId,
    (world.center.approvals.get (requestId, approverId)).map
        SecurityPolicyChangeApproval.decision =
      latestDecision world.chronicle.reviews requestId approverId
  approved : ∀ requestId row, world.center.requests.get requestId = some row →
    row.status = .approved → row.requiredApprovals ≤ world.center.count requestId .approve ∧
      world.center.count requestId .reject = 0
  applied : ∀ requestId ∈ world.chronicle.applied, ∃ row,
    world.center.requests.get requestId = some row ∧ row.status = .applied
  once : world.chronicle.applied.Nodup

variable {world : World} {center : Center} {requestId : RequestId} {action : Action}

theorem reviewedStatus_approved {requiredApprovals : Int}
    (approved : reviewedStatus center requestId requiredApprovals = .approved) :
    requiredApprovals ≤ center.count requestId .approve ∧ center.count requestId .reject = 0 := by
  unfold reviewedStatus at approved
  split at approved
  · cases approved
  case isFalse none_ =>
    split at approved
    case isTrue enough => exact ⟨enough, Nat.eq_zero_of_not_pos none_⟩
    case isFalse => cases approved

/-- The approvers who gave the decision. -/
def Center.approvers (center : Center) (requestId : RequestId)
    (decision : SecurityPolicyApprovalDecision) : List ApproverId :=
  (center.approvals.rows.filter fun row => row.1.1 = requestId ∧ row.2.decision = decision).map
    fun row => row.1.2

theorem length_approvers (decision : SecurityPolicyApprovalDecision) :
    (center.approvers requestId decision).length = center.count requestId decision := by
  rw [Center.approvers, List.length_map, Center.count, List.countP_eq_length_filter]

theorem mem_approvers {decision : SecurityPolicyApprovalDecision} {approver : ApproverId} :
    approver ∈ center.approvers requestId decision ↔
      (center.approvals.get (requestId, approver)).map SecurityPolicyChangeApproval.decision =
        some decision := by
  simp only [Center.approvers, List.mem_map, List.mem_filter, decide_eq_true_eq,
    Option.map_eq_some_iff]
  constructor
  · rintro ⟨⟨⟨_, _⟩, approval⟩, ⟨inside, rfl, decided⟩, rfl⟩
    exact ⟨approval, OrderedTable.mem_rows_iff.mp inside, decided⟩
  · rintro ⟨approval, there, decided⟩
    exact ⟨((requestId, approver), approval),
      ⟨OrderedTable.mem_rows_iff.mpr there, rfl, decided⟩, rfl⟩

theorem nodup_approvers (decision : SecurityPolicyApprovalDecision) :
    (center.approvers requestId decision).Nodup := by
  have keys := center.approvals.nodup
  refine List.pairwise_map.mpr ?_
  refine ((List.pairwise_map.mp keys).filter _).imp_of_mem ?_
  intro first second listed listed' different same
  have here := (of_decide_eq_true (List.mem_filter.mp listed).2).1
  have here' := (of_decide_eq_true (List.mem_filter.mp listed').2).1
  exact different (Prod.ext (here.trans here'.symm) same)

/-- A request that is approved has its quorum. -/
theorem World.Counted.quorum {row : SecurityPolicyChangeRequest} (counted : world.Counted)
    (there : world.center.requests.get requestId = some row) (approved : row.status = .approved) :
    Quorum world requestId := by
  obtain ⟨enough, none_⟩ := counted.approved requestId row there approved
  refine ⟨row, world.center.approvers requestId .approve, there, nodup_approvers _, ?_, ?_, ?_⟩
  · rwa [length_approvers]
  · intro approver inside
    rw [← counted.latest]
    exact mem_approvers.mp inside
  · intro approver rejected
    rw [← counted.latest] at rejected
    rw [← length_approvers, List.length_eq_zero_iff] at none_
    exact absurd (mem_approvers.mpr rejected) (none_ ▸ List.not_mem_nil)

theorem latestDecision_cons (review : Review) (reviews : List Review) (requestId : RequestId)
    (approverId : ApproverId) :
    latestDecision (review :: reviews) requestId approverId =
      if (requestId, approverId) = (review.requestId, review.approverId) then some review.decision
      else latestDecision reviews requestId approverId := by
  by_cases same : review.requestId = requestId ∧ review.approverId = approverId
  · obtain ⟨rfl, rfl⟩ := same
    simp [latestDecision]
  · have other : (requestId, approverId) ≠ (review.requestId, review.approverId) := by
      intro pairs
      obtain ⟨first, second⟩ := Prod.mk.inj pairs
      exact same ⟨first.symm, second.symm⟩
    rw [if_neg other]
    simp [latestDecision, same]

/-- Approvals of another request do not change its count. -/
theorem count_of_ne {approvals : OrderedTable (RequestId × ApproverId) SecurityPolicyChangeApproval}
    {approverId : ApproverId} {approval : SecurityPolicyChangeApproval} {other : RequestId}
    (decision : SecurityPolicyApprovalDecision) (elsewhere : other ≠ requestId)
    (written : approvals = center.approvals.set (requestId, approverId) approval) :
    { center with approvals : Center }.count other decision = center.count other decision := by
  have perm : ({ center with approvals : Center }.approvers other decision).Perm
      (center.approvers other decision) := by
    refine (List.perm_ext_iff_of_nodup (nodup_approvers _) (nodup_approvers _)).mpr fun approver => ?_
    have different : (other, approver) ≠ (requestId, approverId) := fun same =>
      elsewhere (Prod.mk.inj same).1
    rw [mem_approvers, mem_approvers, written, OrderedTable.get_set, if_neg different]
  rw [← length_approvers, ← length_approvers, perm.length_eq]

theorem World.Counted.after (counted : world.Counted) (ran : dispatch world.center action = .ok center)
    (clock : Time) : World.Counted ⟨center, clock, world.chronicle.record action center⟩ := by
  obtain ⟨call, now, appliedAt⟩ := action
  cases call with
  | createPolicy | operate =>
      obtain ⟨policies, -, rfl⟩ := map_eq_ok.mp ran
      exact ⟨counted.latest, counted.approved, counted.applied, counted.once⟩
  | createChange requestId body reportError =>
      obtain ⟨fresh, rfl⟩ := createSecurityPolicyChangeRequest_ok ran
      refine ⟨counted.latest, fun other row there approved => ?_, fun other done => ?_, counted.once⟩
      · dsimp only at there
        rcases OrderedTable.get_set_eq_some.mp there with ⟨-, rfl⟩ | ⟨-, there⟩
        · cases approved
        · exact counted.approved other row there approved
      · obtain ⟨row, there, applied⟩ := counted.applied other done
        have elsewhere : other ≠ requestId := by
          rintro rfl
          exact Option.some_ne_none row (there.symm.trans fresh)
        exact ⟨row, (OrderedTable.get_set ..).trans (if_neg elsewhere ▸ there), applied⟩
  | review requestId approverId decision =>
      obtain ⟨row, reviewed, found, unapplied, rfl, rfl⟩ := reviewSecurityPolicyChangeRequest_ok ran
      refine ⟨fun other approver => ?_, fun other row' there approved => ?_, fun other done => ?_,
        counted.once⟩
      · refine Eq.trans ?_ (latestDecision_cons ..).symm
        dsimp only
        rw [OrderedTable.get_set]
        split
        · rfl
        · exact counted.latest other approver
      · dsimp only at there
        rcases OrderedTable.get_set_eq_some.mp there with ⟨rfl, rfl⟩ | ⟨elsewhere, there⟩
        · exact reviewedStatus_approved approved
        · obtain ⟨enough, none_⟩ := counted.approved other row' there approved
          exact ⟨(count_of_ne .approve elsewhere rfl).symm ▸ enough,
            (count_of_ne .reject elsewhere rfl).trans none_⟩
      · obtain ⟨row', there, applied⟩ := counted.applied other done
        have elsewhere : other ≠ requestId := by
          rintro rfl
          obtain rfl := Option.some.inj (found.symm.trans there)
          exact unapplied applied
        exact ⟨row', (OrderedTable.get_set ..).trans (if_neg elsewhere ▸ there), applied⟩
  | apply requestId =>
      obtain ⟨row, operation, policies, found, approved, -, -, rfl⟩ :=
        applySecurityPolicyChangeRequest_ok ran
      have fresh : requestId ∉ world.chronicle.applied := by
        intro done
        obtain ⟨row', there, applied⟩ := counted.applied requestId done
        obtain rfl := Option.some.inj (found.symm.trans there)
        cases approved.symm.trans applied
      refine ⟨counted.latest, fun other row' there approved' => ?_, fun other done => ?_,
        List.nodup_cons.mpr ⟨fresh, counted.once⟩⟩
      · dsimp only at there
        rcases OrderedTable.get_set_eq_some.mp there with ⟨-, rfl⟩ | ⟨-, there⟩
        · cases approved'
        · exact counted.approved other row' there approved'
      · by_cases here : other = requestId
        · subst here
          exact ⟨_, (OrderedTable.get_set ..).trans (if_pos rfl), rfl⟩
        · obtain ⟨row', there, applied⟩ :=
            counted.applied other ((List.mem_cons.mp done).resolve_left here)
          exact ⟨row', (OrderedTable.get_set ..).trans (if_neg here ▸ there), applied⟩

end Requests

end TrustChain.SecurityPolicy
