import TrustChain.Verifier.Quorum
import TrustChain.Verifier.Windows

/-!
# Attested settlement plans

The adapter turns a quorum and a challenge window into a list of recommended calls. Whether these
settle depends on how many signatures the quorum has, on the status of the window and on the
operational controls; what the quorum has decided, and for which task and evidence, is not asked.
-/

namespace TrustChain.Verifier

open Library

structure TaskContract where
  taskId : TaskId
  agentId : String
  traceId : String := ""

structure EvidenceBundle where
  bundleId : String

structure VerificationResult where
  evidenceBundleDigest : String
  traceId : String := ""

structure OperationalControls where
  pauseSettlement : Bool := false
  pausePayout : Bool := false
  frozenTaskIds : List TaskId := []
  frozenAgentIds : List String := []

def OperationalControls.settlementBlockReason (controls : OperationalControls)
    (task : TaskContract) : Option String :=
  if controls.pauseSettlement then some "pause_settlement"
  else if task.taskId ∈ controls.frozenTaskIds then some "freeze_task"
  else if task.agentId ∈ controls.frozenAgentIds then some "freeze_agent"
  else none

inductive Argument where
  | text (value : String)
  | number (value : Int)
deriving DecidableEq

structure BilateralCall where
  function : String
  onchain : String
  args : List (String × Argument)
  note : String
deriving DecidableEq

/-- The calls of `KarmaBilateral`, in order; `deadlineUnix` is not used. -/
def bilateralCalls (seller token : String) (amountWei : Int) (scopeHex proofHash : String)
    (_deadlineUnix : Int) (pausePayout : Bool) : List BilateralCall :=
  let calls : List BilateralCall := [
    { function := "lockBuyer"
      onchain := "lock"
      args := [("token", .text token), ("amount", .number amountWei)]
      note := "Buyer locks USDC; mints Bill Token 1:1 (MINTED)." },
    { function := "lockAgent"
      onchain := "lock"
      args := [("token", .text token), ("amount", .number amountWei), ("party", .text "agent"),
        ("seller", .text seller)]
      note := "Agent/seller locks matching Bill Token (MINTED)." },
    { function := "bind"
      onchain := "bind"
      args := [("buyerBillId", .text "<buyer_bill_id>"), ("agentBillId", .text "<agent_bill_id>"),
        ("scopeHash", .text scopeHex)]
      note := "Bilateral bind freezes both bills (BOUND)." },
    { function := "settle"
      onchain := "settle"
      args := [("bindingId", .text "<binding_id>"), ("proofHash", .text proofHash)]
      note := "Submit proof; binding enters FINALIZING (dispute window)." },
    { function := "finalizeSettle"
      onchain := "finalizeSettle"
      args := [("bindingId", .text "<binding_id>")]
      note := "After dispute window; burns bills and releases USDC." }]
  if pausePayout then
    calls.filter fun call => call.function ∉ ["settle", "finalizeSettle"]
  else calls

def settlementStepKey (traceId bundleId functionName : String) : String :=
  (if traceId = "" then "<no_trace>" else traceId) ++ "|" ++ bundleId ++ "|" ++ functionName

def QuorumStatus.value : QuorumStatus → String
  | .collecting => "collecting"
  | .attestedOk => "attested_ok"
  | .attestedFail => "attested_fail"
  | .insufficientSignatures => "insufficient_signatures"

/-- What a plan tells of its quorum. -/
structure AttestationNote where
  quorumId : String
  status : QuorumStatus
  threshold : Nat
  totalVerifiers : Nat
  validSignatures : Nat
  decision : Verdict

/-- What a plan tells of its window. -/
structure WindowNote where
  challengeId : String
  status : ChallengeWindowStatus
  startAt : Time
  endAt : Time
  durationSeconds : Int

structure Plan where
  taskId : TaskId
  bundleId : String
  traceId : String
  evidenceBundleDigest : String
  karmaContract : String
  mode : String
  proofHash : String
  scopeHashHex : String
  attestation : AttestationNote
  challengeWindow : WindowNote
  recommendedCalls : List BilateralCall := []
  settlementStepKeys : List (String × String) := []
  txHash : Option String := none
  onchainStatus : String := ""
  operationalBlock : Option String := none
  operationalNotes : List String := []

/-- What a plan is asked for. -/
structure PlanRequest where
  task : TaskContract
  bundle : EvidenceBundle
  proofHash : String
  scopeHex : String
  quorum : AttestationQuorum
  challengeWindow : ChallengeWindow
  seller : String
  token : String
  amountWei : Int
  deadlineUnix : Int
  controls : Option OperationalControls := none
  verify : Option VerificationResult := none

namespace PlanRequest

variable (request : PlanRequest) (contractName : String) (settlementMode : Option String)

/-- A plan without calls. -/
def base : Plan where
  taskId := request.task.taskId
  bundleId := request.bundle.bundleId
  traceId :=
    if request.task.traceId ≠ "" then request.task.traceId
    else (request.verify.map VerificationResult.traceId).getD ""
  evidenceBundleDigest :=
    (request.verify.map VerificationResult.evidenceBundleDigest).getD request.quorum.evidenceHash
  karmaContract := contractName
  mode := lower (settlementMode.getD "offchain")
  proofHash := request.proofHash
  scopeHashHex := request.scopeHex
  attestation := {
    quorumId := request.quorum.quorumId
    status := request.quorum.status
    threshold := request.quorum.threshold
    totalVerifiers := request.quorum.totalVerifiers
    validSignatures := request.quorum.validSignatures
    decision := request.quorum.decision }
  challengeWindow := {
    challengeId := request.challengeWindow.challengeId
    status := request.challengeWindow.status
    startAt := request.challengeWindow.startAt
    endAt := request.challengeWindow.endAt
    durationSeconds := request.challengeWindow.durationSeconds }

/-- The reason of the controls against settling. -/
def blockReason : Option String :=
  request.controls.bind fun controls => controls.settlementBlockReason request.task

def pausePayout : Bool := (request.controls.map OperationalControls.pausePayout).getD false

/-- A plan with all the calls that may be made. -/
def settling : Plan :=
  let base := request.base contractName settlementMode
  let calls := bilateralCalls request.seller request.token request.amountWei request.scopeHex
    request.proofHash request.deadlineUnix request.pausePayout
  { base with
    operationalNotes :=
      if request.pausePayout then ["pause_payout:settle_finalize_omitted"] else []
    recommendedCalls := calls
    settlementStepKeys := calls.map fun call =>
      (call.function, settlementStepKey base.traceId request.bundle.bundleId call.function)
    onchainStatus :=
      if base.mode = "offchain" then "offchain_simulated_attested"
      else if base.mode = "hybrid" ∨ base.mode = "testnet" then "use_bilateral_lock_bind_settle"
      else "pending_testnet_implementation" }

/-- `build_attested_plan`. -/
def buildAttestedPlan : Plan :=
  let base := request.base contractName settlementMode
  if request.quorum.status ≠ .attestedOk then
    { base with onchainStatus := "blocked_quorum:" ++ request.quorum.status.value }
  else if request.challengeWindow.status = .opened then
    { base with onchainStatus := "blocked_challenge_window_open" }
  else if request.challengeWindow.status = .disputed then
    { base with onchainStatus := "blocked_disputed" }
  else match request.blockReason with
    | some reason => { base with
        onchainStatus := "operational_blocked:" ++ reason
        operationalBlock := some reason }
    | none => request.settling contractName settlementMode

end PlanRequest

/-! ## Plans that settle -/

def Plan.Settles (plan : Plan) : Prop :=
  ∃ call ∈ plan.recommendedCalls, call.function = "settle" ∨ call.function = "finalizeSettle"

/-- The quorum is positive, for the task and the evidence of the window, and the window lets
settle. -/
structure PlanRequest.Gated (request : PlanRequest) (now : Time) : Prop where
  verdict : getVerdict request.quorum = .attestedOk
  evidence : request.quorum.evidenceHash = request.challengeWindow.evidenceHash
  quorumTask : request.quorum.taskId = request.task.taskId
  windowTask : request.challengeWindow.taskId = request.task.taskId
  window : canSettle now request.challengeWindow = true

/-- Nothing that the adapter asks for holds a plan back. -/
structure PlanRequest.Clear (request : PlanRequest) : Prop where
  quorum : request.quorum.status = .attestedOk
  notOpen : request.challengeWindow.status ≠ .opened
  undisputed : request.challengeWindow.status ≠ .disputed
  unblocked : request.blockReason = none
  payout : request.pausePayout = false

/-- The quorum has decided for the seller, and it and the window are about the task and the same
evidence. -/
structure PlanRequest.Matching (request : PlanRequest) : Prop where
  decision : request.quorum.decision = .attestedOk
  evidence : request.quorum.evidenceHash = request.challengeWindow.evidenceHash
  quorumTask : request.quorum.taskId = request.task.taskId
  windowTask : request.challengeWindow.taskId = request.task.taskId

section Plans

variable {request : PlanRequest} {contractName : String} {settlementMode : Option String}
  {now : Time}

theorem bilateralCalls_settle_iff {seller token scopeHex proofHash : String} {amountWei : Int}
    (deadlineUnix : Int) {pausePayout : Bool} :
    (∃ call ∈ bilateralCalls seller token amountWei scopeHex proofHash deadlineUnix pausePayout,
        call.function = "settle" ∨ call.function = "finalizeSettle") ↔ pausePayout = false := by
  cases pausePayout <;> simp [bilateralCalls]

/-- A plan settles exactly if nothing that the adapter asks for holds it back. -/
theorem settles_iff :
    (request.buildAttestedPlan contractName settlementMode).Settles ↔ request.Clear := by
  have empty : ∀ {plan : Plan}, plan.recommendedCalls = [] → ¬plan.Settles := by
    rintro plan none ⟨call, member, -⟩
    rw [none] at member
    cases member
  unfold PlanRequest.buildAttestedPlan
  dsimp only
  split
  case isTrue unreached => exact iff_of_false (empty rfl) fun clear => unreached clear.quorum
  case isFalse reached =>
    split
    case isTrue opened => exact iff_of_false (empty rfl) fun clear => clear.notOpen opened
    case isFalse notOpen =>
      split
      case isTrue disputed => exact iff_of_false (empty rfl) fun clear => clear.undisputed disputed
      case isFalse undisputed =>
        split
        case h_1 reason blocked =>
          exact iff_of_false (empty rfl) fun clear => nomatch blocked.symm.trans clear.unblocked
        case h_2 unblocked =>
          refine (bilateralCalls_settle_iff request.deadlineUnix).trans
            ⟨fun payout => ?_, fun clear => clear.payout⟩
          exact ⟨not_not.mp reached, notOpen, undisputed, unblocked, payout⟩

/-- Most of the counted attestations decide against the seller. -/
def MajorityFails (attestations : List VerifierAttestation) : Prop :=
  attestations.length <
    2 * attestations.countP fun attestation => attestation.decision = "STRUCT_FAIL"

theorem decision_of_majorityFails {attestations : List VerifierAttestation}
    (fails : MajorityFails attestations) : computeVerdict attestations ≠ .attestedOk := by
  intro positive
  obtain ⟨-, okays⟩ := computeVerdict_eq_attestedOk.mp positive
  have fewer : (attestations.countP fun attestation => attestation.decision = "STRUCT_FAIL") ≤
      attestations.countP fun attestation => ¬attestation.decision = "STRUCT_OK" := by
    apply List.countP_mono_left
    intro attestation _ decided
    simp [of_decide_eq_true decided]
  have all := List.length_eq_countP_add_countP (l := attestations)
    fun attestation => attestation.decision = "STRUCT_OK"
  simp only [decide_eq_true_eq] at all
  unfold MajorityFails at fails
  omega

theorem getVerdict_of_reached {quorum : AttestationQuorum} (reached : quorum.status = .attestedOk) :
    getVerdict quorum = quorum.decision := by
  simp [getVerdict, isQuorumReached, reached]

/-- For a collected quorum and a managed window, a plan that settles is gated exactly if it is
held back, or quorum and window match and the quorum has decided for the seller. -/
theorem attested_plan_gated_iff {aggregator : AttestationAggregator} {recovery : Recovery}
    {quorumId createdAt : String} {attestations : List VerifierAttestation}
    {defaultDurationSeconds : Int} {manager : ChallengeWindowManager} {taskId : TaskId}
    {state : ChallengeWindowState}
    (collected : aggregator.collect recovery quorumId createdAt attestations = some request.quorum)
    (reachable : (windowSystem defaultDurationSeconds).Reachable manager)
    (managed : manager.windows.get taskId = some state)
    (window : request.challengeWindow = state.window) :
    (((request.buildAttestedPlan contractName settlementMode).Settles → request.Gated now) ∧
        (MajorityFails (aggregator.counted recovery attestations) →
          ¬(request.buildAttestedPlan contractName settlementMode).Settles)) ↔
      (request.Clear → request.Matching) := by
  rw [settles_iff]
  constructor
  · rintro ⟨gates, -⟩ clear
    have gated := gates clear
    refine ⟨?_, gated.evidence, gated.quorumTask, gated.windowTask⟩
    exact (getVerdict_of_reached clear.quorum).symm.trans gated.verdict
  · intro matching
    constructor
    · intro clear
      have matched := matching clear
      have closed : request.challengeWindow.status = .closed := by
        rw [window]
        exact closed_of_reachable reachable managed (window ▸ clear.notOpen)
          (window ▸ clear.undisputed)
      exact {
        verdict := (getVerdict_of_reached clear.quorum).trans matched.decision
        evidence := matched.evidence
        quorumTask := matched.quorumTask
        windowTask := matched.windowTask
        window := canSettle_of_closed closed }
    · intro fails clear
      apply decision_of_majorityFails fails
      have decided := (matching clear).decision
      rwa [collect_ok collected] at decided

end Plans

/-! ## Scenes -/

namespace Demo

/-- Two of three verifiers have found that the evidence is not in order. -/
def denied : List VerifierAttestation :=
  (signings.take 1 ++ (signings.drop 3).take 2).map Signing.attestation

/-- A manager that has opened a window of half an hour, and was asked about it a second later
than that. -/
def manager (evidenceHash : String) : ChallengeWindowManager :=
  ((({} : ChallengeWindowManager).perform (.openWindow 0 "t" evidenceHash "api" none)).perform
    (.ask (1801 * second) "t"))

def passed (evidenceHash : String) : ChallengeWindowState where
  window := {
    challengeId := "challenge-t"
    taskId := "t"
    evidenceHash
    startAt := 0
    endAt := 1800 * second
    status := .closed }

/-- A plan is asked for a task, with a quorum of some attestations and the window. -/
def planned (taskId : TaskId) (attestations : List VerifierAttestation) (evidenceHash : String) :
    PlanRequest where
  task := { taskId, agentId := "agent" }
  bundle := { bundleId := "b" }
  proofHash := "0x00"
  scopeHex := "0x00"
  quorum := quorum attestations
  challengeWindow := (passed evidenceHash).window
  seller := "0xf"
  token := "USDC"
  amountWei := 1
  deadlineUnix := 0

theorem reachable_manager (evidenceHash : String) :
    (windowSystem 1800).Reachable (manager evidenceHash) :=
  ((TransitionSystem.Reachable.init rfl).step rfl).step rfl

theorem planned_settles {taskId : TaskId} {attestations : List VerifierAttestation}
    {evidenceHash : String} (reached : (quorum attestations).status = .attestedOk) :
    ((planned taskId attestations evidenceHash).buildAttestedPlan "KarmaBilateral" none).Settles :=
  settles_iff.mpr ⟨reached, nofun, nofun, rfl, rfl⟩

end Demo

theorem attested_plan_gated_iff_honest :
    ((Demo.planned "t" Demo.honest Demo.evidence).buildAttestedPlan "KarmaBilateral" none).Settles ∧
      (Demo.planned "t" Demo.honest Demo.evidence).Gated (1801 * second) := by
  have collected : Demo.aggregator.collect Demo.recovery "q" "2026-01-01T00:00:00Z" Demo.honest =
      some (Demo.planned "t" Demo.honest Demo.evidence).quorum := by decide +kernel
  have managed : (Demo.manager Demo.evidence).windows.get "t" =
      some (Demo.passed Demo.evidence) := by decide +kernel
  have matching : (Demo.planned "t" Demo.honest Demo.evidence).Matching := by
    constructor <;> decide +kernel
  have reached : (Demo.quorum Demo.honest).status = .attestedOk := by decide +kernel
  have settles : ((Demo.planned "t" Demo.honest Demo.evidence).buildAttestedPlan
      "KarmaBilateral" none).Settles := Demo.planned_settles reached
  exact ⟨settles, ((attested_plan_gated_iff collected (Demo.reachable_manager _) managed rfl).mpr
    fun _ => matching).1 settles⟩

/-- A quorum against the seller, one for another task and one over other evidence than the
window's all lead to plans that settle. -/
theorem not_attested_plan_gated :
    (Demo.aggregator.collect Demo.recovery "q" "2026-01-01T00:00:00Z" Demo.denied =
        some (Demo.quorum Demo.denied) ∧
      Demo.aggregator.collect Demo.recovery "q" "2026-01-01T00:00:00Z" Demo.honest =
        some (Demo.quorum Demo.honest)) ∧
      ((windowSystem 1800).Reachable (Demo.manager Demo.evidence) ∧
        (Demo.manager Demo.evidence).windows.get "t" = some (Demo.passed Demo.evidence)) ∧
      ((windowSystem 1800).Reachable (Demo.manager "dd") ∧
        (Demo.manager "dd").windows.get "t" = some (Demo.passed "dd")) ∧
      MajorityFails (Demo.aggregator.counted Demo.recovery Demo.denied) ∧
      (((Demo.planned "t" Demo.denied Demo.evidence).buildAttestedPlan
          "KarmaBilateral" none).Settles ∧
        ¬(Demo.planned "t" Demo.denied Demo.evidence).Gated (1801 * second)) ∧
      (((Demo.planned "u" Demo.honest Demo.evidence).buildAttestedPlan
          "KarmaBilateral" none).Settles ∧
        ¬(Demo.planned "u" Demo.honest Demo.evidence).Gated (1801 * second)) ∧
      ((Demo.planned "t" Demo.honest "dd").buildAttestedPlan "KarmaBilateral" none).Settles ∧
        ¬(Demo.planned "t" Demo.honest "dd").Gated (1801 * second) := by
  have honest : (Demo.quorum Demo.honest).status = .attestedOk := by decide +kernel
  refine ⟨⟨?_, ?_⟩, ⟨Demo.reachable_manager _, ?_⟩, ⟨Demo.reachable_manager _, ?_⟩, ?_,
    ⟨Demo.planned_settles ?_, fun gated => absurd gated.verdict ?_⟩,
    ⟨Demo.planned_settles honest, fun gated => absurd gated.quorumTask ?_⟩,
    Demo.planned_settles honest, fun gated => absurd gated.evidence ?_⟩
  · decide +kernel
  · decide +kernel
  · decide +kernel
  · decide +kernel
  · unfold MajorityFails
    decide +kernel
  · decide +kernel
  · decide +kernel
  · decide +kernel
  · decide +kernel

end TrustChain.Verifier
