import TrustChain.AgentBoundary.Verify

/-!
# What a confirmation block covers

A card may declare many scenes, but its confirmation block is derived from the first one. It
covers the others as well exactly if they need the owner at no step at which the first does not.
-/

namespace TrustChain.AgentBoundary

open Library
open Delivery (SceneId AgentId orEmpty)
open OwnerConfirmation (Gate GateMode PolicyError Role namedRole)

/-- The steps at which `plan_confirmations` has the owner confirm. -/
def Catalog.required (catalog : Catalog) (sceneId : SceneId) (confRole : String) : List StepName :=
  match catalog.planConfirmations sceneId confRole with
  | .ok plan => plan.mustConfirm.map (·.step)
  | .error _ => []

/-- A block has the owner confirm what some scene needs, and leaves none of it to the agent. -/
def Covers (catalog : Catalog) (sceneIds : List SceneId) (confRole : String) (block : Block) :
    Prop :=
  ∀ sceneId ∈ sceneIds, ∀ step ∈ catalog.required sceneId confRole,
    step ∈ block.mustConfirmSteps ∧ step ∉ block.autoOkSteps

/-- The confirmations of the cards that declare some scenes cover them all, where the role that
is derived is the given one. -/
structure ScenesCovered (catalog : Catalog) (sceneIds : List SceneId) (confRole : String) :
    Prop where
  canonical : ∀ card rejectLooser canon, card.sceneIds = sceneIds → card.confRole = confRole →
    catalog.canonicalizeConfirmationBoundary card rejectLooser = .ok canon →
    ∃ block, canon.confirmationBoundary = some block ∧ Covers catalog sceneIds confRole block
  again : ∀ card rejectLooser canon rejectAgain, card.sceneIds = sceneIds →
    card.confRole = confRole →
    catalog.canonicalizeConfirmationBoundary card rejectLooser = .ok canon →
    catalog.canonicalizeConfirmationBoundary canon rejectAgain = .ok canon
  verified : ∀ card call report, card.sceneIds = sceneIds → call.confRole card = confRole →
    catalog.verifyBoundaryCard call (some card) = .ok report → report.ok = true →
    Covers catalog sceneIds confRole card.published

section Blocks

variable {catalog : Catalog} {sceneId : SceneId} {sceneIds : List SceneId} {confRole : String}
  {block published : Block} {card canon : Card} {step : StepName} {plan : Plan} {call : Call}
  {report : Report}

/-! ## The plan of one scene -/

/-- The items of a plan have the gates of their steps, and are where these put them. -/
theorem gate_of_planned (planned : catalog.planConfirmations sceneId confRole = .ok plan)
    {item : PlanItem} :
    (item ∈ plan.mustConfirm → item.gate.needsOwner = true ∧
      catalog.resolveGate sceneId confRole item.step false = .ok item.gate) ∧
    (item ∈ plan.autoOk → item.gate.needsOwner = false ∧
      catalog.resolveGate sceneId confRole item.step false = .ok item.gate) := by
  rw [Catalog.planConfirmations, bind_eq_ok] at planned
  obtain ⟨items, ran, same⟩ := planned
  obtain rfl := Except.ok.inj same
  have resolved : ∀ item ∈ items,
      catalog.resolveGate sceneId confRole item.step false = .ok item.gate := by
    intro item member
    obtain ⟨step, -, ranStep⟩ := of_mapM_ok ran member
    obtain ⟨gate, resolves, same⟩ := bind_eq_ok.1 ranStep
    obtain rfl := Except.ok.inj same
    exact resolves
  constructor
  · intro member
    obtain ⟨inside, needs⟩ := List.mem_filter.1 member
    exact ⟨needs, resolved item inside⟩
  · intro member
    obtain ⟨inside, needless⟩ := List.mem_filter.1 member
    exact ⟨by simpa using needless, resolved item inside⟩

/-- No step is both confirmed by the owner and left to the agent. -/
theorem not_auto_of_must (planned : catalog.planConfirmations sceneId confRole = .ok plan)
    (must : step ∈ plan.mustConfirm.map (·.step)) : step ∉ plan.autoOk.map (·.step) := by
  intro auto
  obtain ⟨item, member, rfl⟩ := List.mem_map.1 must
  obtain ⟨other, otherMember, same⟩ := List.mem_map.1 auto
  obtain ⟨needs, resolves⟩ := (gate_of_planned planned).1 member
  obtain ⟨needless, resolvesOther⟩ := (gate_of_planned planned).2 otherMember
  rw [same, resolves] at resolvesOther
  have gates := Except.ok.inj resolvesOther
  simp [gates, needless] at needs

/-- What a scene needs, it needs for a role that there is. -/
theorem named_of_required (required : step ∈ catalog.required sceneId confRole) :
    ∃ role, namedRole confRole = some role := by
  unfold Catalog.required at required
  split at required
  case h_1 plan planned =>
    obtain ⟨item, member, -⟩ := List.mem_map.1 required
    obtain ⟨-, resolves⟩ := (gate_of_planned planned).1 member
    unfold OwnerConfirmation.Config.resolveGate at resolves
    cases named : namedRole confRole with
    | none => simp [named] at resolves
    | some role => exact ⟨role, rfl⟩
  case h_2 => exact absurd required List.not_mem_nil

/-- For such a role every scene has a plan. -/
theorem planned_of_named {role : Role} (named : namedRole confRole = some role) :
    ∃ plan, catalog.planConfirmations sceneId confRole = .ok plan := by
  obtain ⟨items, ran⟩ := @mapM_ok PolicyError StepName PlanItem (fun step => do
    let gate ← catalog.resolveGate sceneId confRole step false
    .ok { step, gate : PlanItem }) catalog.lifecycleSteps (by
      intro step _
      simp [OwnerConfirmation.Config.resolveGate, named])
  exact ⟨_, by rw [Catalog.planConfirmations, ran]; rfl⟩

/-! ## The derived block -/

theorem block_required (derived : catalog.confirmationBlock sceneIds confRole = .ok block) :
    block.mustConfirmSteps = catalog.required (primaryScene sceneIds) confRole ∧
      (∀ step ∈ block.mustConfirmSteps, step ∉ block.autoOkSteps) ∧ block.role = some confRole := by
  rw [Catalog.confirmationBlock, bind_eq_ok] at derived
  obtain ⟨plan, planned, same⟩ := derived
  obtain rfl := Except.ok.inj same
  refine ⟨?_, fun step must => not_auto_of_must planned must, rfl⟩
  simp only [Catalog.required, planned]

theorem mem_sortedSet {steps : List StepName} : step ∈ sortedSet steps ↔ step ∈ steps := by
  rw [sortedSet, List.mem_insertionSort, List.mem_dedup]

theorem issue_eq_nil {label : String} {steps : List StepName} :
    issue label (sortedSet steps) = [] ↔ ∀ step, step ∉ steps := by
  have empty : sortedSet steps = [] ↔ ∀ step, step ∉ steps := by
    simp [List.eq_nil_iff_forall_not_mem, mem_sortedSet]
  rw [← empty, issue]
  simp

/-- Nothing is looser in a block exactly if it covers what the derived block has confirmed. -/
theorem not_looser_iff (derived : catalog.confirmationBlock sceneIds confRole = .ok block) :
    catalog.confirmationIsLooserThanCatalog published sceneIds confRole = .ok [] ↔
      ∀ step ∈ block.mustConfirmSteps,
        step ∈ published.mustConfirmSteps ∧ step ∉ published.autoOkSteps := by
  have apart := (block_required derived).2.1
  rw [Catalog.confirmationIsLooserThanCatalog, derived, ok_bind, Except.ok.injEq,
    List.append_eq_nil_iff, issue_eq_nil, issue_eq_nil]
  simp only [List.mem_filter, decide_eq_true_eq, not_and, not_not]
  constructor
  · rintro ⟨present, licit⟩ step must
    exact ⟨present step must, fun auto => licit step auto (apart step must) must⟩
  · intro covers
    constructor
    · intro step must
      exact (covers step must).1
    · intro step auto _ must
      exact (covers step must).2 auto

/-- A block that is looser in nothing covers the first scene. -/
theorem covers_of_not_looser
    (strict : catalog.confirmationIsLooserThanCatalog published sceneIds confRole = .ok [])
    (required : step ∈ catalog.required (primaryScene sceneIds) confRole) :
    step ∈ published.mustConfirmSteps ∧ step ∉ published.autoOkSteps := by
  have derived := strict
  rw [Catalog.confirmationIsLooserThanCatalog, bind_eq_ok] at derived
  obtain ⟨block, derived, -⟩ := derived
  rw [← (block_required derived).1] at required
  exact (not_looser_iff derived).1 strict step required

/-! ## Canonical cards -/

theorem canonicalize_iff {rejectLooser : Bool} :
    catalog.canonicalizeConfirmationBoundary card rejectLooser = .ok canon ↔
      (rejectLooser = true ∧ card.confirmationBoundary.isSome = true →
        catalog.confirmationIsLooserThanCatalog card.published card.sceneIds card.confRole =
          .ok []) ∧
      ∃ block, catalog.confirmationBlock card.sceneIds card.confRole = .ok block ∧
        { card with confirmationBoundary := some block } = canon := by
  have refuse : catalog.refuseLooser card = .ok () ↔
      catalog.confirmationIsLooserThanCatalog card.published card.sceneIds card.confRole =
        .ok [] := by
    simp [Catalog.refuseLooser, bind_eq_ok, require_eq_ok]
  have derive : ((catalog.confirmationBlock card.sceneIds card.confRole).mapError .policy >>=
      fun block => Except.ok { card with confirmationBoundary := some block }) =
        (.ok canon : Except BoundaryError Card) ↔
      ∃ block, catalog.confirmationBlock card.sceneIds card.confRole = .ok block ∧
        { card with confirmationBoundary := some block } = canon := by
    simp [bind_eq_ok]
  rw [← refuse, ← derive, Catalog.canonicalizeConfirmationBoundary]
  split
  case isTrue checked =>
    rw [bind_eq_ok]
    constructor
    · rintro ⟨_, strict, ran⟩
      exact ⟨fun _ => strict, ran⟩
    · rintro ⟨strict, ran⟩
      exact ⟨(), strict checked, ran⟩
  case isFalse unchecked =>
    constructor
    · intro ran
      exact ⟨fun checked => absurd checked unchecked, ran⟩
    · intro ran
      exact ran.2

theorem karmaRoleToConfirmationRole_ne (role : String) : karmaRoleToConfirmationRole role ≠ "" := by
  unfold karmaRoleToConfirmationRole
  split
  · decide
  · decide

theorem confRole_ne (card : Card) : card.confRole ≠ "" := by
  unfold Card.confRole
  split
  · decide
  · split
    · apply karmaRoleToConfirmationRole_ne
    · assumption

/-- The role that a block was derived for is found in it again. -/
theorem confRole_canonical (role : block.role = some card.confRole) :
    ({ card with confirmationBoundary := some block } : Card).confRole = card.confRole := by
  have named : orEmpty block.role = card.confRole := by rw [role]; rfl
  have present := confRole_ne card
  by_cases user : (orEmpty card.profileId).toLower = "user"
  · simp [Card.confRole, user]
  · simp only [Card.confRole, Card.published, Option.getD_some, user, if_false]
    rw [named, if_neg present]
    simp only [Card.confRole, Card.published, user, if_false]

/-- A canonical card is canonicalized to itself. -/
theorem canonicalize_again {rejectLooser rejectAgain : Bool}
    (ran : catalog.canonicalizeConfirmationBoundary card rejectLooser = .ok canon) :
    catalog.canonicalizeConfirmationBoundary canon rejectAgain = .ok canon := by
  obtain ⟨-, block, derived, rfl⟩ := canonicalize_iff.1 ran
  obtain ⟨-, apart, role⟩ := block_required derived
  rw [canonicalize_iff, confRole_canonical role]
  constructor
  · intro _
    apply (not_looser_iff derived).2
    intro step must
    exact ⟨must, apart step must⟩
  · exact ⟨block, derived, rfl⟩

/-! ## Verified cards -/

/-- A card that is verified is looser in nothing for the role of the request. -/
theorem not_looser_of_ok (ran : catalog.verifyBoundaryCard call (some card) = .ok report)
    (ok : report.ok = true) :
    catalog.confirmationIsLooserThanCatalog card.published card.sceneIds (call.confRole card) =
      .ok [] := by
  rw [Catalog.verifyBoundaryCard, bind_eq_ok] at ran
  obtain ⟨issues, compared, ran⟩ := ran
  obtain ⟨canon, -, same⟩ := bind_eq_ok.1 ran
  obtain rfl := Except.ok.inj same
  simp only [Bool.and_eq_true, Call.checks, decide_eq_true_eq] at ok
  rw [mapError_eq_ok, ok.2] at compared
  exact compared

/-! ## All scenes -/

/-- The confirmations cover all scenes exactly if the first scene needs the owner wherever some
other one does. -/
theorem scenesCovered_iff : ScenesCovered catalog sceneIds confRole ↔
    ∀ sceneId ∈ sceneIds, ∀ step ∈ catalog.required sceneId confRole,
      step ∈ catalog.required (primaryScene sceneIds) confRole := by
  constructor
  · intro covered sceneId member step required
    obtain ⟨role, named⟩ := named_of_required required
    have present : confRole ≠ "" := by
      intro empty
      have unnamed : namedRole "" = none := by decide +kernel
      rw [empty, unnamed] at named
      exact nomatch named
    obtain ⟨plan, planned⟩ := @planned_of_named catalog (primaryScene sceneIds) _ _ named
    let card : Card := { sceneIds, confirmationBoundary := some { role := some confRole } }
    have role : card.confRole = confRole := by
      have nobody : (orEmpty none).toLower ≠ "user" := by decide +kernel
      rw [Card.confRole, if_neg nobody]
      exact if_neg present
    obtain ⟨block, derived⟩ : ∃ block,
        catalog.confirmationBlock sceneIds confRole = .ok block := by
      exact ⟨_, by rw [Catalog.confirmationBlock, planned]; rfl⟩
    have ran := (@canonicalize_iff catalog card _ false).2
      ⟨by simp, block, by rw [role]; exact derived, rfl⟩
    obtain ⟨found, is, covers⟩ := covered.canonical card false _ rfl role ran
    obtain rfl := Option.some.inj is
    rw [← (block_required derived).1]
    exact (covers sceneId member step required).1
  · intro first
    constructor
    · rintro card rejectLooser canon rfl rfl ran
      obtain ⟨-, block, derived, rfl⟩ := canonicalize_iff.1 ran
      obtain ⟨must, apart, -⟩ := block_required derived
      refine ⟨block, rfl, ?_⟩
      intro sceneId member step required
      have inside := first sceneId member step required
      rw [← must] at inside
      exact ⟨inside, apart step inside⟩
    · intro card rejectLooser canon rejectAgain _ _ ran
      exact canonicalize_again ran
    · rintro card call report rfl rfl ran ok sceneId member step required
      exact covers_of_not_looser (not_looser_of_ok ran ok) (first sceneId member step required)

end Blocks

namespace Demo

/-- A seller takes tool calls by itself, and asks its owner before it produces goods. -/
def catalog : Catalog where
  scenes sceneId :=
    if sceneId = "api_tool_call" then some { modes := fun _ _ => some .auto }
    else if sceneId = "manufacturing" then some { modes := fun _ _ => some .ownerConfirm }
    else none
  globalDefaults _ _ := none
  appEnv := "production"
  lifecycleSteps := ["accept_order"]
  lower := String.toLower
  contentHash _ := "sha256:"

/-- A seller that does both. -/
def card : Card where
  sceneIds := ["api_tool_call", "manufacturing"]

end Demo

/-- The order for goods is among the steps that are left to the agent. -/
theorem order_left_to_agent :
    (Demo.catalog.canonicalizeConfirmationBoundary Demo.card true).toOption.bind
        (fun canon => canon.confirmationBoundary.map (·.autoOkSteps)) = some ["accept_order"] ∧
    Demo.catalog.required "manufacturing" "seller" = ["accept_order"] ∧
    ¬ScenesCovered Demo.catalog Demo.card.sceneIds "seller" := by
  refine ⟨by decide +kernel, by decide +kernel, ?_⟩
  intro covered
  have first := scenesCovered_iff.1 covered "manufacturing" (by decide) "accept_order"
    (by decide +kernel)
  exact absurd first (by decide +kernel)

end TrustChain.AgentBoundary
