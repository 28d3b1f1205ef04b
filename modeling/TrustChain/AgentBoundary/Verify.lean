import TrustChain.Library.Firsts
import TrustChain.Library.Json
import TrustChain.OwnerConfirmation.Sessions

/-!
# Boundary cards

An agent publishes at which steps it asks its owner, and which it takes by itself. The service
derives both from the catalog of the confirmation policy, and refuses a card that publishes less.
-/

namespace TrustChain.AgentBoundary

open Library
open Delivery (SceneId AgentId orEmpty)
open OwnerConfirmation (Gate GateMode PolicyError)

/-- A step of the lifecycle of an order. -/
abbrev StepName := String

/-! ## Cards -/

/-- `confirmation_boundary`. -/
structure Block where
  role : Option String := none
  primarySceneId : Option SceneId := none
  sceneIds : List SceneId := []
  mustConfirmSteps : List StepName := []
  autoOkSteps : List StepName := []
  policyAutoSteps : List StepName := []
  summaryZh : Option String := none
  agentUxZh : Json.Fields := []
  realityNoteZh : Option String := none

/-- A boundary card. A confirmation block that is missing or empty is `none`. -/
structure Card where
  schemaVersion : Option String := none
  agentId : Option AgentId := none
  profileId : Option String := none
  karmaRole : Option String := none
  sceneIds : List SceneId := []
  capabilityBoundary : Json.Fields := []
  responsibilityBoundary : Json.Fields := []
  confirmationBoundary : Option Block := none
  boundaryComplete : Bool := false
  completenessGaps : List String := []

/-- The policy catalog, with what a confirmation block shows of it, and the rest of what the
boundary standard reads. -/
structure Catalog extends OwnerConfirmation.Config where
  lifecycleSteps : List StepName
  realityNoteZh : SceneId → Option String := fun _ => none
  agentUxZh : Json.Fields := []
  /-- The industries of the catalog of service specifications. -/
  industries : List SceneId := []
  /-- `str.lower`, on free text. -/
  lower : String → String
  /-- `boundary_content_hash`. -/
  contentHash : Card → String

/-! ## The plan of a scene -/

structure PlanItem where
  step : StepName
  gate : Gate

structure Plan where
  mustConfirm : List PlanItem
  autoOk : List PlanItem
  realityNoteZh : Option String
  agentUxZh : Json.Fields
  summaryZh : String

/-- What the policy of a scene says of its reality. -/
def Catalog.sceneNote (catalog : Catalog) (sceneId : SceneId) : Option String :=
  if (catalog.scenes sceneId).isSome then catalog.realityNoteZh sceneId
  else some "使用全局默认确认策略（未知 scene，勿用于高风险成交）"

/-- `plan_confirmations` for all steps of the lifecycle. -/
def Catalog.planConfirmations (catalog : Catalog) (sceneId : SceneId) (role : String) :
    Except PolicyError Plan := do
  let items ← catalog.lifecycleSteps.mapM fun step => do
    let gate ← catalog.resolveGate sceneId role step false
    .ok { step, gate : PlanItem }
  let mustConfirm := items.filter (·.gate.needsOwner)
  let autoOk := items.filter (!·.gate.needsOwner)
  .ok {
    mustConfirm
    autoOk
    realityNoteZh := catalog.sceneNote sceneId
    agentUxZh := catalog.agentUxZh
    summaryZh := "需主人确认 " ++ toString mustConfirm.length ++ " 步；可自动 " ++
      toString autoOk.length ++ " 步。Agent 只需在必须确认点询问是否确认。" }

/-! ## The confirmation block -/

inductive BoundaryError where
  | policy (error : PolicyError)
  | looser (message : String)

/-- `karma_role_to_confirmation_role`. -/
def karmaRoleToConfirmationRole (role : String) : String :=
  if Runtime.strip role.toLower ∈ ["client", "buyer", "user"] then "buyer" else "seller"

/-- The scene that the confirmation block of a list of scenes is derived from. -/
def primaryScene (sceneIds : List SceneId) : SceneId := sceneIds.head?.getD "api_tool_call"

/-- `_confirmation_block`. -/
def Catalog.confirmationBlock (catalog : Catalog) (sceneIds : List SceneId) (confRole : String) :
    Except PolicyError Block := do
  let primary := primaryScene sceneIds
  let plan ← catalog.planConfirmations primary confRole
  .ok {
    role := some confRole
    primarySceneId := some primary
    sceneIds := if sceneIds = [] then [primary] else sceneIds
    mustConfirmSteps := plan.mustConfirm.map (·.step)
    autoOkSteps := plan.autoOk.map (·.step)
    policyAutoSteps :=
      ((plan.mustConfirm ++ plan.autoOk).filter (·.gate.mode = .policyAuto)).map (·.step)
    summaryZh := some plan.summaryZh
    agentUxZh := plan.agentUxZh
    realityNoteZh := plan.realityNoteZh }

/-- `sorted` of a set of steps. -/
def sortedSet (steps : List StepName) : List StepName := steps.dedup.insertionSort (· ≤ ·)

/-- An issue, if there are steps that have it. -/
def issue (label : String) (steps : List StepName) : List String :=
  if steps = [] then [] else [label ++ ",".intercalate steps]

/-- `confirmation_is_looser_than_catalog`: what is looser in the published block. -/
def Catalog.confirmationIsLooserThanCatalog (catalog : Catalog) (published : Block)
    (sceneIds : List SceneId) (confRole : String) : Except PolicyError (List String) := do
  let derived ← catalog.confirmationBlock sceneIds confRole
  let missingMust := sortedSet (derived.mustConfirmSteps.filter (· ∉ published.mustConfirmSteps))
  let illicitAuto := sortedSet (published.autoOkSteps.filter fun step =>
    step ∉ derived.autoOkSteps ∧ step ∈ derived.mustConfirmSteps)
  .ok (issue "missing_must_confirm:" missingMust ++ issue "illicit_auto_ok:" illicitAuto)

namespace Card

variable (card : Card)

/-- The published block, empty if there is none. -/
def published : Block := card.confirmationBoundary.getD {}

/-- The confirmation role that `canonicalize_confirmation_boundary` derives. -/
def confRole : String :=
  if (orEmpty card.profileId).toLower = "user" then "buyer"
  else if orEmpty card.published.role = "" then
    karmaRoleToConfirmationRole
      (if orEmpty card.karmaRole = "" then "worker" else orEmpty card.karmaRole)
  else orEmpty card.published.role

end Card

/-- The refusal of a published block that is looser than the catalog. -/
def Catalog.refuseLooser (catalog : Catalog) (card : Card) : Except BoundaryError Unit := do
  let issues ← (catalog.confirmationIsLooserThanCatalog card.published card.sceneIds
    card.confRole).mapError .policy
  require (issues = []) (.looser ("confirmation_boundary is looser than catalog (security): " ++
    "; ".intercalate issues))

/-- `canonicalize_confirmation_boundary`. -/
def Catalog.canonicalizeConfirmationBoundary (catalog : Catalog) (card : Card)
    (rejectLooser : Bool) : Except BoundaryError Card := do
  if rejectLooser ∧ card.confirmationBoundary.isSome then catalog.refuseLooser card
  let block ← (catalog.confirmationBlock card.sceneIds card.confRole).mapError .policy
  .ok { card with confirmationBoundary := some block }

/-! ## The verification of boundary cards

A counterparty has a card verified before it relies on it: what it publishes is compared with the
catalog once more, for the role that the request names, next to what the card says of its scenes.
-/

/-- The arguments of `verify_boundary_card`, next to the card. -/
structure Call where
  agentId : Option AgentId := none
  identityClass : Option String := none
  storedBoundaryHash : Option String := none
  requireComplete : Bool := true
  sceneId : Option SceneId := none
  role : Option String := none

structure Checks where
  boundaryPresent : Bool := false
  schemaOk : Bool := false
  confirmationCatalogAligned : Bool := false
  confirmationNotLooser : Bool := false
  capabilityScenesConsistent : Bool := false
  serviceSpecsPresentForScenes : Bool := false
  doNotPresent : Bool := false
  sceneCovered : Bool := false
  sceneNotRefused : Bool := false
  scenePolicyDefined : Bool := false
  boundaryHashMatchesLive : Bool := false
  boundaryComplete : Bool := false

structure Details where
  looserIssues : List String := []
  canonicalConfirmation : Option Block := none
  orphanConfirmationScenes : List SceneId := []
  serviceSpecsValid : Option Bool := none
  completenessGaps : List String := []
  liveBoundaryHash : Option String := none
  storedBoundaryHash : Option String := none
  sceneFallback : Bool := false
  highRiskScene : Bool := false
  unknownScenes : List SceneId := []

/-- What `verify_boundary_card` returns, without its notes and the digest of the card. -/
structure Report where
  agentId : Option AgentId
  ok : Bool
  sceneId : Option SceneId
  checks : Checks := {}
  gaps : List String
  details : Details := {}

/-- A gap, where a check does not pass. -/
def gap (name : String) (passed : Bool) : List String := if passed then [] else [name]

/-- Whether a text contains another. -/
def contains (text part : String) : Bool := part.toList <:+: text.toList

namespace Card

variable (card : Card)

def serviceSpecs : Json.Fields :=
  match card.capabilityBoundary.get "service_specs" with
  | some (.object specs) => specs
  | _ => []

def doNot : String :=
  match card.capabilityBoundary.get "do_not" with
  | some (.string text) => text
  | _ => ""

/-- `seller_covers_scene`. -/
def sellerCoversScene (sceneId : SceneId) : Bool :=
  let sid := Runtime.strip sceneId
  sid ∈ card.sceneIds || (card.serviceSpecs.get sid).isSome

/-- `scene_in_do_not`. -/
def sceneInDoNot (catalog : Catalog) (sceneId : SceneId) : Bool :=
  let doNot := catalog.lower card.doNot
  let token := catalog.lower (Runtime.strip sceneId)
  doNot ≠ "" && token ≠ "" && contains doNot token &&
    ["不做", "不接", "拒绝", "除外", "禁止", "not ", "no "].any (contains doNot)

/-- The scenes that the policy does not know. -/
def unknownScenes (catalog : Catalog) : List SceneId :=
  card.sceneIds.filter fun sceneId => (catalog.scenes sceneId).isNone

end Card

namespace Call

variable (call : Call) (card : Card)

/-- The class of the identity, in lower case. -/
def identity : String :=
  (if orEmpty call.identityClass = "" then orEmpty card.profileId
    else orEmpty call.identityClass).toLower

/-- The confirmation role that `verify_boundary_card` derives. -/
def confRole : String :=
  if call.identity card = "user" then "buyer"
  else if orEmpty call.role ≠ "" then (orEmpty call.role).toLower
  else if orEmpty card.published.role ≠ "" then (orEmpty card.published.role).toLower
  else "seller"

/-- Whether what a seller must have is asked for. -/
def forSeller : Bool :=
  call.identity card ∈ ["merchant", "enterprise"] || call.confRole card = "seller"

def forBuyer : Bool := call.identity card = "user" || call.confRole card = "buyer"

def specsPresent : Bool :=
  !call.forSeller card ||
    (card.sceneIds ≠ [] &&
      card.sceneIds.all fun sceneId => (card.serviceSpecs.get sceneId).isSome) ||
    call.forBuyer card

def doNotPresent : Bool :=
  !call.forSeller card || Runtime.strip card.doNot ≠ "" || call.forBuyer card

/-- Whether `validate_service_specs_for_industries` finds all industries, where it is called. -/
def specsValid (catalog : Catalog) : Option Bool :=
  if call.forSeller card ∧ card.sceneIds ≠ [] ∧ card.serviceSpecs ≠ [] then
    some (card.sceneIds.all (· ∈ catalog.industries))
  else none

def hashMatches (catalog : Catalog) : Bool :=
  orEmpty call.storedBoundaryHash = "" ||
    call.storedBoundaryHash = some (catalog.contentHash card)

def asked : Bool := orEmpty call.sceneId ≠ ""

def policyDefined (catalog : Catalog) : Bool :=
  if call.asked then (catalog.scenes (orEmpty call.sceneId)).isSome
  else card.unknownScenes catalog = []

def covered : Bool :=
  !call.asked || call.forBuyer card || card.sellerCoversScene (orEmpty call.sceneId)

def notRefused (catalog : Catalog) : Bool :=
  !call.asked || call.forBuyer card || !card.sceneInDoNot catalog (orEmpty call.sceneId)

/-- The checks of a card, with what its published block has that is looser. -/
def checks (catalog : Catalog) (issues : List String) : Checks where
  boundaryPresent := true
  schemaOk := card.schemaVersion = some "karma-agent-boundary-v1"
  confirmationCatalogAligned := true
  confirmationNotLooser := issues = []
  capabilityScenesConsistent :=
    card.sceneIds = [] || card.published.sceneIds.all (· ∈ card.sceneIds)
  serviceSpecsPresentForScenes := call.specsPresent card
  doNotPresent := call.doNotPresent card
  sceneCovered := call.covered card
  sceneNotRefused := call.notRefused card catalog
  scenePolicyDefined := call.policyDefined card catalog
  boundaryHashMatchesLive := call.hashMatches card catalog
  boundaryComplete := card.boundaryComplete

/-- The gaps of a card, in the order in which they are found. -/
def gaps (catalog : Catalog) (issues : List String) : List String :=
  let checks := call.checks card catalog issues
  firsts id (gap "schema_ok" checks.schemaOk ++
    gap "confirmation_not_looser" checks.confirmationNotLooser ++
    gap "capability_scenes_consistent" checks.capabilityScenesConsistent ++
    gap "service_specs_present_for_scenes" checks.serviceSpecsPresentForScenes ++
    gap "do_not_present" checks.doNotPresent ++
    gap "service_specs_valid"
      (call.specsValid card catalog ≠ some false || catalog.allowDemoConfirmationBypass) ++
    gap "boundary_complete" (!call.requireComplete || checks.boundaryComplete) ++
    gap "boundary_hash_matches_live" checks.boundaryHashMatchesLive ++
    gap "scene_policy_defined" checks.scenePolicyDefined ++
    gap "scene_covered" checks.sceneCovered ++
    gap "scene_not_refused" checks.sceneNotRefused)

def details (catalog : Catalog) (issues : List String) (canon : Card) : Details where
  looserIssues := issues
  canonicalConfirmation := canon.confirmationBoundary
  orphanConfirmationScenes :=
    if (call.checks card catalog issues).capabilityScenesConsistent then []
    else sortedSet (card.published.sceneIds.filter (· ∉ card.sceneIds))
  serviceSpecsValid := call.specsValid card catalog
  completenessGaps :=
    if call.requireComplete ∧ !card.boundaryComplete then card.completenessGaps else []
  liveBoundaryHash := some (catalog.contentHash card)
  storedBoundaryHash := call.storedBoundaryHash
  sceneFallback := call.asked && !call.policyDefined card catalog
  highRiskScene := call.asked && catalog.isHighRiskScene (orEmpty call.sceneId)
  unknownScenes := if call.asked then [] else card.unknownScenes catalog

end Call

/-- `verify_boundary_card`; an empty card is none. -/
def Catalog.verifyBoundaryCard (catalog : Catalog) (call : Call) :
    Option Card → Except BoundaryError Report
  | none =>
      .ok { agentId := call.agentId, ok := false, sceneId := call.sceneId,
            gaps := ["boundary_present"] }
  | some card => do
      let issues ← (catalog.confirmationIsLooserThanCatalog card.published card.sceneIds
        (call.confRole card)).mapError .policy
      let canon ← catalog.canonicalizeConfirmationBoundary card false
      let checks := call.checks card catalog issues
      let gaps := call.gaps card catalog issues
      .ok {
        agentId := if orEmpty call.agentId = "" then card.agentId else call.agentId
        ok := gaps = [] && checks.boundaryPresent && checks.confirmationNotLooser
        sceneId := call.sceneId
        checks
        gaps
        details := call.details card catalog issues canon }

end TrustChain.AgentBoundary
