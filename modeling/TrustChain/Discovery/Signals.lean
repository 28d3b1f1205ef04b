import TrustChain.AgentBoundary.Verify

/-!
# What discovery knows of candidates

What the reputation row and the settlements say of an agent, and the bonus that discovery adds
for it to what a candidate can do. Candidates are ranked for one scene, which the caller names or
the type of the task stands for: a candidate covers the scene that its boundary declares, and
refuses one that the text of its boundary rules out.
-/

namespace TrustChain.Discovery

open Library
open Delivery (SceneId orEmpty)
open AgentBoundary (contains)

/-! ## Trust -/

/-- `AgentTrustStats`, of an agent that is named elsewhere. -/
structure AgentTrustStats where
  reputationScore : ℚ := 100
  totalTasks : ℤ := 0
  successfulTasks : ℤ := 0
  disputedTasks : ℤ := 0
  successRate : ℚ := 1 / 2
  settledCount : ℤ := 0
  settledVolume : ℚ := 0
  disputeRate : ℚ := 0
  washTradeFlags : ℤ := 0
  coldStart : Bool := true

/-- What `to_dict` returns. -/
structure Trust where
  reputationScore : ℚ
  totalTasks : ℤ
  successfulTasks : ℤ
  disputedTasks : ℤ
  successRate : ℚ
  settledCount : ℤ
  settledVolume : ℚ
  disputeRate : ℚ
  washTradeFlags : ℤ
  coldStart : Bool
  positiveFeedbackProxy : ℚ

def AgentTrustStats.toDict (stats : AgentTrustStats) : Trust where
  reputationScore := roundTo 3 stats.reputationScore
  totalTasks := stats.totalTasks
  successfulTasks := stats.successfulTasks
  disputedTasks := stats.disputedTasks
  successRate := roundTo 4 stats.successRate
  settledCount := stats.settledCount
  settledVolume := roundTo 4 stats.settledVolume
  disputeRate := roundTo 4 stats.disputeRate
  washTradeFlags := stats.washTradeFlags
  coldStart := stats.coldStart
  positiveFeedbackProxy := roundTo 4 (stats.successRate * max stats.settledCount 0)

inductive ValueError where
  /-- `math domain error`. -/
  | mathDomain
  deriving DecidableEq

/-- `f"{value:.2f}"`, with its number of digits. -/
def fixed (digits : ℕ) (value : ℚ) : String :=
  let scaled := (roundHalfEven (|value| * 10 ^ digits)).toNat
  let decimals := Nat.toDigits 10 (scaled % 10 ^ digits)
  (if value < 0 then "-" else "") ++ toString (scaled / 10 ^ digits) ++ "." ++
    .ofList (List.replicate (digits - decimals.length) '0' ++ decimals)

/-- `value or default`: zero counts as absent. -/
def orDefault {α : Type} [Zero α] [DecidableEq α] (value : Option α) (default : α) : α :=
  (value.filter (· ≠ 0)).getD default

/-- A reason, on a condition. -/
def reasonIf (condition : Bool) (reason : String) : List String :=
  if condition then [reason] else []

/-- A bonus and the reasons for it. -/
structure Bonus where
  amount : ℚ
  reasons : List String
  deriving DecidableEq

/-- The part of a bonus that is taken off for disputes. -/
def AgentTrustStats.disputePenalty (stats : AgentTrustStats) : ℚ :=
  if 0 < stats.disputeRate then min (stats.disputeRate * 6) 4 else 0

/-- The part of a bonus that is taken off for wash trades. -/
def AgentTrustStats.washPenalty (stats : AgentTrustStats) : ℚ :=
  if stats.washTradeFlags ≠ 0 then min (stats.washTradeFlags * (4 / 5)) 5 else 0

/-- `compute_trust_bonus`. Outside of its domain, `math.log1p` has no value and raises. -/
def computeTrustBonus (log1p : ℚ → Option ℚ) (stats : AgentTrustStats) :
    Except ValueError Bonus := do
  let repNorm := min (max stats.reputationScore 0 / 200) (3 / 2)
  let sr := if stats.totalTasks ≠ 0 ∨ stats.settledCount ≠ 0 then stats.successRate else 1 / 2
  let counted ← (log1p stats.settledCount).elim (.error .mathDomain) .ok
  let sold ← (log1p stats.settledVolume).elim (.error .mathDomain) .ok
  let volTerm := counted * (6 / 5) + sold * (3 / 20)
  let bonus := 4 * repNorm + 7 / 2 * sr + min volTerm 4 - stats.disputePenalty -
    (if stats.coldStart then 1 / 2 else 0) - stats.washPenalty
  .ok {
    amount := roundTo 3 bonus
    reasons :=
      ["reputation:" ++ fixed 1 stats.reputationScore, "success_rate:" ++ fixed 2 sr] ++
      reasonIf (stats.settledCount ≠ 0) ("settled_count:" ++ toString stats.settledCount) ++
      reasonIf (stats.settledVolume ≠ 0) ("settled_volume:" ++ fixed 2 stats.settledVolume) ++
      reasonIf (0 < stats.disputeRate) ("dispute_penalty:" ++ fixed 2 stats.disputePenalty) ++
      reasonIf stats.coldStart "cold_start" ++
      reasonIf (stats.washTradeFlags ≠ 0) ("wash_penalty:" ++ fixed 2 stats.washPenalty) }

inductive TrustTier where
  | proven | emerging | cold
  deriving DecidableEq

def TrustTier.text : TrustTier → String
  | .proven => "proven"
  | .emerging => "emerging"
  | .cold => "cold"

/-- `_TRUST_TIER_RANK`. -/
def TrustTier.rank : TrustTier → ℤ
  | .proven => 3
  | .emerging => 2
  | .cold => 1

/-! ## The scene of a task -/

/-- `_TASK_TYPE_TO_SCENE`. -/
def taskTypeToScene : List (String × SceneId) :=
  [("commerce.food", "food_delivery"), ("commerce.ride", "ride_hailing"),
    ("commerce.hotel", "hotel_booking"), ("commerce.flight", "flight_booking"),
    ("commerce.procurement", "b2b_procurement"), ("b2b.procurement", "b2b_procurement"),
    ("api.translate", "api_tool_call"), ("api.caption", "api_tool_call"),
    ("api.labeling", "api_tool_call"), ("api.generic", "api_tool_call"),
    ("api.data", "data_api_billing"), ("data.api", "data_api_billing"),
    ("logistics", "logistics_delivery"), ("software", "software_development"),
    ("design", "design_creative"), ("consulting", "consulting_advisory"),
    ("content", "content_creation"), ("manufacturing", "manufacturing"),
    ("real_estate", "real_estate_services"), ("finance", "financial_services"),
    ("financial", "financial_services"), ("marketing", "marketing_advertising"),
    ("education", "education_training"), ("healthcare", "healthcare_medical"),
    ("medical", "healthcare_medical")]

/-- What a task type begins with or contains, for each scene, in the order of the tests. -/
def sceneMarks : List (SceneId × List String × List String) :=
  [("food_delivery", ["commerce.food"], ["food"]),
    ("ride_hailing", ["commerce.ride"], ["ride"]),
    ("hotel_booking", ["commerce.hotel"], ["hotel"]),
    ("flight_booking", ["commerce.flight"], ["flight"]),
    ("b2b_procurement", [], ["procure", "b2b"]),
    ("financial_services", [], ["financ", "对账"]),
    ("healthcare_medical", [], ["health", "medical", "陪诊"]),
    ("manufacturing", [], ["manufactur", "代工"]),
    ("real_estate_services", [], ["real_estate", "房产"]),
    ("consulting_advisory", [], ["consult"]),
    ("design_creative", [], ["design", "创意"]),
    ("marketing_advertising", [], ["market", "广告"]),
    ("education_training", [], ["educat", "培训"]),
    ("content_creation", [], ["content", "内容"]),
    ("api_tool_call", ["api."], ["mcp", "tool"]),
    ("data_api_billing", [], ["data"]),
    ("logistics_delivery", [], ["logistic", "delivery"]),
    ("software_development", [], ["software", "dev"])]

/-- `task_type_to_scene_id`, with the scenes of the confirmation policy. -/
def taskTypeToSceneId (policies : AgentBoundary.Catalog) (taskType : Option String) : SceneId :=
  let tt := policies.lower (Runtime.strip (orEmpty taskType))
  if tt = "" then "api_tool_call"
  else
    match taskTypeToScene.lookup tt with
    | some sceneId => sceneId
    | none =>
        match sceneMarks.find? fun mark =>
          mark.2.1.any (fun start => start.toList <+: tt.toList) || mark.2.2.any (contains tt) with
        | some mark => mark.1
        | none => if (policies.scenes tt).isSome then tt else "api_tool_call"

def resolveSceneId (policies : AgentBoundary.Catalog) (sceneId taskType : Option String) :
    SceneId :=
  if Runtime.strip (orEmpty sceneId) ≠ "" then Runtime.strip (orEmpty sceneId)
  else taskTypeToSceneId policies taskType

/-! ## The boundary of a candidate -/

/-- What of the digest of a boundary is read. -/
structure BoundaryDigest where
  sceneIds : List SceneId := []
  doNot : String := ""

/-- What a candidate says of its scenes. -/
structure Declared where
  /-- `none` if there is no list of scenes, or it is `None`. -/
  sceneIds : Option (List SceneId) := none
  boundary : BoundaryDigest := {}
  capabilityBoundary : Json.Fields := []
  doNot : String := ""

namespace Declared

variable (declared : Declared)

/-- `_card_scene_ids`. -/
def cardSceneIds : List SceneId :=
  match declared.sceneIds with
  | none | some [] => declared.boundary.sceneIds
  | some sceneIds => sceneIds

/-- `(card.get("boundary") or {}).get("do_not") or card.get("do_not") or ""`. -/
def refusal : String :=
  if declared.boundary.doNot = "" then declared.doNot else declared.boundary.doNot

/-- The boundary that a digest stands for. -/
def reconstructed : AgentBoundary.Card where
  sceneIds := declared.cardSceneIds
  capabilityBoundary :=
    [("service_specs", .object (declared.cardSceneIds.map fun sceneId => (sceneId, .object []))),
      ("do_not", .string declared.refusal)]

def candidateCoversScene (sceneId : SceneId) : Bool :=
  if sceneId = "" then false
  else if sceneId ∈ declared.cardSceneIds then true
  else if declared.capabilityBoundary ≠ [] ∨ declared.sceneIds ≠ none then
    AgentBoundary.Card.sellerCoversScene
      { sceneIds := declared.sceneIds.getD [], capabilityBoundary := declared.capabilityBoundary }
      sceneId
  else declared.reconstructed.sellerCoversScene sceneId

def candidateRefusesScene (policies : AgentBoundary.Catalog) (sceneId : SceneId) : Bool :=
  AgentBoundary.Card.sceneInDoNot
    { sceneIds := declared.cardSceneIds
      capabilityBoundary := [("do_not", .string declared.refusal)] }
    policies sceneId

end Declared

end TrustChain.Discovery
