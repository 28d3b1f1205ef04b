import Mathlib.Data.Prod.Lex
import Mathlib.Data.String.Basic
import TrustChain.Discovery.Signals
import TrustChain.Library.StableSort

/-!
# The priority of candidates

Discovery ranks candidates by a policy of the scene: by flags first, then by a score that adds a
bonus for trust to what the candidate can do. A candidate is a dictionary with optional fields,
and what is returned has the fields that the ranking has filled in.
-/

namespace TrustChain.Discovery

open Library
open Delivery (SceneId AgentId orEmpty)

/-! ## Policies -/

/-- An entry of the priority catalog. What it does not name is `none`. -/
structure ScenePolicy where
  requireP1Ready : Option Bool := none
  requireBoundaryComplete : Option Bool := none
  requireSceneCoverage : Option Bool := none
  allowColdStart : Option Bool := none
  highRisk : Option Bool := none
  minSettledCountForProven : Option ℤ := none
  minSuccessRateForProven : Option ℚ := none
  maxDisputeRate : Option ℚ := none
  trustWeight : Option ℚ := none
  sceneCoverageBonus : Option ℚ := none
  boundaryIncompletePenalty : Option ℚ := none
  p1ReadyBonus : Option ℚ := none
  p1NotReadyPenalty : Option ℚ := none
  preferIdentityClasses : Option (List String) := none
  preferredIdentityClasses : Option (List String) := none

/-- A policy, and the scene that it is for. -/
structure Policy extends ScenePolicy where
  sceneId : Option SceneId := none

structure PriorityCatalog where
  globalDefaults : ScenePolicy := {}
  scenes : SceneId → Option ScenePolicy := fun _ => none

/-- `{**defaults, **scene}`. -/
def ScenePolicy.merged (defaults scene : ScenePolicy) : ScenePolicy where
  requireP1Ready := scene.requireP1Ready <|> defaults.requireP1Ready
  requireBoundaryComplete := scene.requireBoundaryComplete <|> defaults.requireBoundaryComplete
  requireSceneCoverage := scene.requireSceneCoverage <|> defaults.requireSceneCoverage
  allowColdStart := scene.allowColdStart <|> defaults.allowColdStart
  highRisk := scene.highRisk <|> defaults.highRisk
  minSettledCountForProven := scene.minSettledCountForProven <|> defaults.minSettledCountForProven
  minSuccessRateForProven := scene.minSuccessRateForProven <|> defaults.minSuccessRateForProven
  maxDisputeRate := scene.maxDisputeRate <|> defaults.maxDisputeRate
  trustWeight := scene.trustWeight <|> defaults.trustWeight
  sceneCoverageBonus := scene.sceneCoverageBonus <|> defaults.sceneCoverageBonus
  boundaryIncompletePenalty :=
    scene.boundaryIncompletePenalty <|> defaults.boundaryIncompletePenalty
  p1ReadyBonus := scene.p1ReadyBonus <|> defaults.p1ReadyBonus
  p1NotReadyPenalty := scene.p1NotReadyPenalty <|> defaults.p1NotReadyPenalty
  preferIdentityClasses := scene.preferIdentityClasses <|> defaults.preferIdentityClasses
  preferredIdentityClasses := scene.preferredIdentityClasses <|> defaults.preferredIdentityClasses

def PriorityCatalog.getScenePriorityPolicy (catalog : PriorityCatalog) (sceneId : Option SceneId) :
    Policy :=
  let sid := Runtime.strip (orEmpty sceneId)
  { catalog.globalDefaults.merged ((catalog.scenes sid).getD {}) with
    sceneId := if sid = "" then none else some sid }

/-- The policy without its requirements. -/
def Policy.soft (policy : Policy) : Policy :=
  { policy with
    requireP1Ready := some false
    requireBoundaryComplete := some false
    requireSceneCoverage := some false }

def classifyTrustTier (stats : AgentTrustStats) (policy : Policy) : TrustTier :=
  let minN := orDefault policy.minSettledCountForProven 3
  let minSr := orDefault policy.minSuccessRateForProven (4 / 5)
  let maxDr := orDefault policy.maxDisputeRate (1 / 4)
  let sr := if stats.totalTasks ≠ 0 ∨ stats.settledCount ≠ 0 then stats.successRate else 0
  let hasRecord := 0 < stats.settledCount ∨ 0 < stats.totalTasks
  if minN ≤ stats.settledCount ∧ minSr ≤ sr ∧ stats.disputeRate ≤ maxDr ∧ !stats.coldStart then
    .proven
  else if hasRecord ∧ !stats.coldStart then .emerging
  else .cold

/-! ## Candidates -/

/-- What the accept ledger says of a seller. -/
structure AcceptRisk where
  nonConfirmCount : ℤ
  verificationTier : String
  verificationTierRank : ℤ
  bondMultiplier : ℚ
  discoveryDemote : Bool

structure VerifyUrls where
  p1Status : String
  trust : String
  boundaryVerify : String

structure TrustEvidence where
  agentId : AgentId
  sceneId : SceneId
  trustTier : TrustTier
  p1Ready : Option Json
  boundaryComplete : Option Json
  boundaryHash : Option String
  identityClass : Option String
  reputationScore : ℚ
  settledCount : ℤ
  settledVolume : ℚ
  successRate : ℚ
  disputeRate : ℚ
  verifyUrls : VerifyUrls
  noteZh : String

/-- The flags of a candidate, as they were evaluated. -/
structure Priority where
  order : List String
  p1Ready : Bool
  boundaryComplete : Bool
  sceneCovered : Bool
  trustTier : TrustTier
  highRiskScene : Bool
  acceptRisk : Option AcceptRisk

/-- The fields of a candidate that are read or written. A field that is missing is `none`; the
two flags may hold any value. -/
structure Card extends Declared where
  agentId : Option AgentId := none
  score : Option ℚ := none
  capabilityScore : Option ℚ := none
  p1Ready : Option Json := none
  boundaryComplete : Option Json := none
  boundaryHash : Option String := none
  identityClass : Option String := none
  matchReasons : List String := []
  trustBonus : Option ℚ := none
  trust : Option Trust := none
  eligible : Option Bool := none
  dropReasons : Option (List String) := none
  sceneCovered : Option Bool := none
  sceneRefused : Option Bool := none
  trustTier : Option TrustTier := none
  trustTierRank : Option ℤ := none
  trustEvidence : Option TrustEvidence := none
  /-- An empty dictionary is `none`. -/
  acceptRisk : Option AcceptRisk := none
  sceneId : Option SceneId := none
  priority : Option Priority := none

/-- `str(card.get("agent_id") or "")`. -/
def Card.aid (card : Card) : AgentId := orEmpty card.agentId

/-- `float(card.get("capability_score") or card.get("score") or 0)`. -/
def Card.base (card : Card) : ℚ := orDefault card.capabilityScore (card.score.getD 0)

/-- `value is True`. -/
def isTrue : Option Json → Bool
  | some (.bool value) => value
  | _ => false

/-- `value is False`. -/
def isFalse : Option Json → Bool
  | some (.bool value) => !value
  | _ => false

def trustEvidenceDigest (card : Card) (stats : AgentTrustStats) (trustTier : TrustTier)
    (sceneId : SceneId) : TrustEvidence where
  agentId := card.aid
  sceneId := sceneId
  trustTier := trustTier
  p1Ready := card.p1Ready
  boundaryComplete := card.boundaryComplete
  boundaryHash := card.boundaryHash
  identityClass := card.identityClass
  reputationScore := roundTo 3 stats.reputationScore
  settledCount := stats.settledCount
  settledVolume := roundTo 4 stats.settledVolume
  successRate := roundTo 4 stats.successRate
  disputeRate := roundTo 4 stats.disputeRate
  verifyUrls :=
    { p1Status := "/v1/agents/" ++ card.aid ++ "/p1-status"
      trust := "/v1/agents/" ++ card.aid ++ "/trust"
      boundaryVerify := "/v1/agents/" ++ card.aid ++ "/boundary/verify" ++
        (if sceneId = "" then "" else "?scene_id=" ++ sceneId) }
  noteZh := "评分与笔数来自平台声誉行与结算聚合；对端可用 verify_urls 复验。"

/-! ## The evaluation of one candidate -/

/-- What `evaluate_candidate_priority` returns. -/
structure Evaluation where
  eligible : Bool
  dropReasons : List String
  p1Ready : Bool
  boundaryComplete : Bool
  sceneCovered : Bool
  sceneRefused : Bool
  trustTier : TrustTier
  identityPreferred : Bool
  capabilityScore : ℚ
  trustBonus : ℚ
  score : ℚ
  priorityReasons : List String
  trustEvidence : TrustEvidence
  sceneId : SceneId
  policySceneId : Option SceneId
  highRiskScene : Bool

/-- Add an amount for a reason, on a condition. -/
def Bonus.adjust (bonus : Bonus) (condition : Bool) (amount : ℚ) (reason : String) : Bonus :=
  if condition then
    { amount := roundTo 3 (bonus.amount + amount), reasons := bonus.reasons ++ [reason] }
  else bonus

/-- A reason that is worth nothing, on a condition. -/
def Bonus.remark (bonus : Bonus) (condition : Bool) (reason : String) : Bonus :=
  { bonus with reasons := bonus.reasons ++ reasonIf condition reason }

/-- What a ranking takes besides the candidates and the limit: its arguments, the catalogs and the
accept ledger that it reads, and a function of the standard library. -/
structure Ranking where
  /-- `math.log1p`. -/
  log1p : ℚ → Option ℚ
  catalog : PriorityCatalog
  /-- The confirmation policies, and `str.lower`. -/
  policies : AgentBoundary.Catalog
  /-- `accept_enrichment_for_discovery`; `none` where it raises. -/
  acceptEnrichment : AgentId → SceneId → Option AcceptRisk
  statsMap : AgentId → Option AgentTrustStats
  sceneId : Option SceneId
  taskType : Option String := none
  dropIneligible : Bool := true
  enforceScenePolicy : Bool := true

namespace Ranking

variable (ranking : Ranking)

/-- The scene that candidates are ranked for. -/
def sid : SceneId := resolveSceneId ranking.policies ranking.sceneId ranking.taskType

/-- The policy that candidates are ranked by. -/
def policy : Policy :=
  let policy := ranking.catalog.getScenePriorityPolicy (some ranking.sid)
  if ranking.enforceScenePolicy then policy else policy.soft

/-- `stats_map.get(aid) or AgentTrustStats(agent_id=aid)`. -/
def stats (card : Card) : AgentTrustStats := (ranking.statsMap card.aid).getD {}

section Evaluation

variable (card : Card)

def sceneCovered : Bool :=
  ranking.sid ≠ "" && card.candidateCoversScene ranking.sid

def sceneRefused : Bool :=
  ranking.sid ≠ "" && card.candidateRefusesScene ranking.policies ranking.sid

def trustTier : TrustTier := classifyTrustTier (ranking.stats card) ranking.policy

/-- `(card.get("identity_class") or "").lower()`. -/
def identityClass : String := ranking.policies.lower (orEmpty card.identityClass)

/-- The identity classes that the policy prefers. -/
def preferred : List String :=
  (((ranking.policy.preferIdentityClasses.filter (· ≠ [])).or
    ranking.policy.preferredIdentityClasses).getD []).map ranking.policies.lower

def identityPreferred : Bool :=
  ranking.identityClass card ≠ "" && ranking.identityClass card ∈ ranking.preferred

/-- The bonus for trust, by the weight of the policy. -/
def weighted (trust : Bonus) : Bonus :=
  { trust with amount := roundTo 3 (trust.amount * orDefault ranking.policy.trustWeight 1) }

/-- The bonus for trust, adjusted to the flags, the scene and the identity of the candidate. -/
def adjusted (trust : Bonus) : Bonus :=
  (ranking.weighted trust)
    |>.adjust (isFalse card.boundaryComplete)
      (-orDefault ranking.policy.boundaryIncompletePenalty (3 / 2)) "boundary_incomplete"
    |>.adjust (isTrue card.p1Ready) (orDefault ranking.policy.p1ReadyBonus 2) "p1_ready"
    -- a flag is not both true and false
    |>.adjust (isFalse card.p1Ready) (-orDefault ranking.policy.p1NotReadyPenalty 2) "p1_not_ready"
    |>.adjust (ranking.sceneCovered card) (orDefault ranking.policy.sceneCoverageBonus 3)
      ("scene_covered:" ++ ranking.sid)
    |>.remark (!ranking.sceneCovered card && ranking.sid ≠ "") ("scene_uncovered:" ++ ranking.sid)
    |>.remark (ranking.sceneRefused card) ("scene_refused:" ++ ranking.sid)
    |>.adjust (ranking.identityPreferred card) (3 / 4)
      ("identity:" ++ ranking.identityClass card)

/-- Why a candidate is not eligible. -/
def dropReasons : List String :=
  let policy := ranking.policy
  reasonIf (ranking.sceneRefused card) "scene_refused" ++
  reasonIf (policy.requireP1Ready.getD false && !isTrue card.p1Ready) "require_p1_ready" ++
  reasonIf (policy.requireBoundaryComplete.getD false && !isTrue card.boundaryComplete)
    "require_boundary_complete" ++
  reasonIf (policy.requireSceneCoverage.getD false && !ranking.sceneCovered card)
    "require_scene_coverage" ++
  reasonIf (!policy.allowColdStart.getD true && ranking.trustTier card = .cold &&
    (policy.requireP1Ready.getD false || policy.highRisk.getD false)) "cold_start_forbidden"

def eligible : Bool := (ranking.dropReasons card).isEmpty

/-- What the signals of the candidate are worth. -/
def bonus (trust : Bonus) : ℚ := (ranking.adjusted card trust).amount

/-- The composite score of the candidate. -/
def composite (trust : Bonus) : ℚ := roundTo 3 (card.base + ranking.bonus card trust)

def evaluation (trust : Bonus) : Evaluation where
  eligible := ranking.eligible card
  dropReasons := ranking.dropReasons card
  p1Ready := isTrue card.p1Ready
  boundaryComplete := isTrue card.boundaryComplete
  sceneCovered := ranking.sceneCovered card
  sceneRefused := ranking.sceneRefused card
  trustTier := ranking.trustTier card
  identityPreferred := ranking.identityPreferred card
  capabilityScore := card.base
  trustBonus := ranking.bonus card trust
  score := ranking.composite card trust
  priorityReasons := (ranking.adjusted card trust).reasons
  trustEvidence :=
    trustEvidenceDigest card (ranking.stats card) (ranking.trustTier card) ranking.sid
  sceneId := ranking.sid
  policySceneId := ranking.policy.sceneId
  highRiskScene := ranking.policy.highRisk.getD false

def evaluateCandidatePriority : Except ValueError Evaluation := do
  let trust ← computeTrustBonus ranking.log1p (ranking.stats card)
  .ok (ranking.evaluation card trust)

/-- What the accept ledger says of the candidate, if it has a name. -/
def acceptRisk : Option AcceptRisk :=
  if card.aid = "" then none else ranking.acceptEnrichment card.aid ranking.sid

/-- The candidate with the fields that the ranking fills in. -/
def filled (pri : Evaluation) : Card :=
  { card with
    capabilityScore := some pri.capabilityScore
    trustBonus := some pri.trustBonus
    score := some pri.score
    trust := some (ranking.stats card).toDict
    eligible := some pri.eligible
    dropReasons := some pri.dropReasons
    p1Ready := some (card.p1Ready.getD (.bool pri.p1Ready))
    boundaryComplete := some (card.boundaryComplete.getD (.bool pri.boundaryComplete))
    sceneCovered := some pri.sceneCovered
    sceneRefused := some pri.sceneRefused
    trustTier := some pri.trustTier
    trustTierRank := some pri.trustTier.rank
    trustEvidence := some pri.trustEvidence
    acceptRisk := ranking.acceptRisk card
    sceneId := some ranking.sid
    matchReasons := card.matchReasons ++ pri.priorityReasons
    priority := some {
      order := ["eligible", "p1_ready", "boundary_complete", "scene_covered", "trust_tier",
        "accept_risk", "composite_score"]
      p1Ready := pri.p1Ready
      boundaryComplete := pri.boundaryComplete
      sceneCovered := pri.sceneCovered
      trustTier := pri.trustTier
      highRiskScene := pri.highRiskScene
      acceptRisk := ranking.acceptRisk card } }

/-- One turn of the loop: the candidate that is appended, if it is not dropped. -/
def enrich : Except ValueError (Option Card) := do
  let pri ← ranking.evaluateCandidatePriority card
  .ok (if ranking.dropIneligible ∧ !pri.eligible then none else some (ranking.filled card pri))

end Evaluation

end Ranking

/-! ## The ranking -/

abbrev PriorityKey := ℕ ×ₗ ℕ ×ₗ ℕ ×ₗ ℕ ×ₗ ℤ ×ₗ ℕ ×ₗ ℤ ×ₗ ℤ ×ₗ ℚ ×ₗ ℚ ×ₗ ℚ ×ₗ String

def prioritySortKey (item : Card) : PriorityKey :=
  toLex (if item.eligible.getD true then 0 else 1,
    toLex (if item.p1Ready.any Json.truthy then 0 else 1,
    toLex (if item.boundaryComplete.any Json.truthy then 0 else 1,
    toLex (if item.sceneCovered.getD false then 0 else 1,
    toLex (-(item.trustTierRank.getD 0),
    toLex (if item.acceptRisk.any (·.discoveryDemote) then 1 else 0,
    toLex (-(orDefault (item.acceptRisk.map (·.verificationTierRank)) 3),
    toLex ((item.acceptRisk.map (·.nonConfirmCount)).getD 0,
    toLex (-(item.score.getD 0),
    toLex (-((item.trust.map (·.settledVolume)).getD 0),
    toLex (-((item.trust.map (·.reputationScore)).getD 0), item.aid)))))))))))

def Ranking.applyPriorityRanking (ranking : Ranking) (candidates : List Card)
    (limit : Option ℕ) : Except ValueError (List Card) := do
  let enriched ← candidates.mapM ranking.enrich
  .ok (limited limit (sortBy prioritySortKey enriched.reduceOption))

end TrustChain.Discovery
