import TrustChain.Discovery.Priority

/-!
# Ranking again

What discovery has ranked may be ranked once more. The order in which candidates are listed never
matters, and a limit only cuts the list. But a second ranking starts from what the first has
written: a score of zero gives way to the composite score, and a flag that was missing is false
from then on.
-/

namespace TrustChain.Discovery

open Library

/-! ## Steady candidates -/

/-- What is compared between two rankings. -/
def Card.view (card : Card) : Option String × Option ℚ × Option ℚ :=
  (card.agentId, card.score, card.capabilityScore)

/-- The candidate with both flags. One that was missing is false. -/
def Card.flagged (card : Card) : Card :=
  { card with
    p1Ready := some (card.p1Ready.getD (.bool false))
    boundaryComplete := some (card.boundaryComplete.getD (.bool false)) }

namespace Ranking

variable (ranking : Ranking)

/-- `math.log1p` accepts the settlements of the candidate. -/
def Rated (card : Card) : Prop :=
  (ranking.log1p (ranking.stats card).settledCount).isSome ∧
    (ranking.log1p (ranking.stats card).settledVolume).isSome

/-- The candidate is not dropped. -/
def Keeps (card : Card) : Prop := ranking.dropIneligible → ranking.eligible card

/-- What the policy adds for the scene and the identity of a candidate. -/
def sceneAmounts (card : Card) : List ℚ :=
  (if ranking.sceneCovered card then [orDefault ranking.policy.sceneCoverageBonus 3] else []) ++
  (if ranking.identityPreferred card then [3 / 4] else [])

/-- The amounts that the policy adds for the flags, the scene and the identity of a candidate. -/
def amounts (card : Card) : List ℚ :=
  (if isFalse card.boundaryComplete then
    [-orDefault ranking.policy.boundaryIncompletePenalty (3 / 2)] else []) ++
  ((if isTrue card.p1Ready then [orDefault ranking.policy.p1ReadyBonus 2] else []) ++
  ((if isFalse card.p1Ready then [-orDefault ranking.policy.p1NotReadyPenalty 2] else []) ++
  ranking.sceneAmounts card))

/-- The weighted bonus for trust and the amounts, rounded after each of them. -/
def total (trust : Bonus) (amounts : List ℚ) : ℚ :=
  roundedSum 3 (roundTo 3 (trust.amount * orDefault ranking.policy.trustWeight 1)) amounts

/-- A candidate that another turn does not change: it can do something or its amounts come to
nothing, and it has both flags or the penalties for the missing ones are lost in rounding. -/
structure SteadyWith (trust : Bonus) (card : Card) : Prop where
  scored : card.base ≠ 0 ∨ ranking.total trust (ranking.amounts card) = 0
  flagged : card.p1Ready.isSome ∧ card.boundaryComplete.isSome ∨
    roundTo 3 (card.base + ranking.total trust (ranking.amounts card.flagged)) =
      roundTo 3 (card.base + ranking.total trust (ranking.amounts card))

def Steady (card : Card) : Prop :=
  ∀ trust, computeTrustBonus ranking.log1p (ranking.stats card) = .ok trust →
    ranking.SteadyWith trust card

end Ranking

/-- What a ranking should be: no order of the candidates matters, ranking again changes nothing,
and a limit cuts the list. -/
structure RankingStable (ranking : Ranking) (candidates : List Card) : Prop where
  reordered : ∀ others limit, others.Perm candidates →
    ranking.applyPriorityRanking others limit = ranking.applyPriorityRanking candidates limit
  repeated : ∀ limit ranked, ranking.applyPriorityRanking candidates limit = .ok ranked →
    ∃ again, ranking.applyPriorityRanking ranked limit = .ok again ∧
      again.map Card.view = ranked.map Card.view
  cut : ∀ count, ranking.applyPriorityRanking candidates (some count) =
    (ranking.applyPriorityRanking candidates none).map (List.take count)

section Turn

variable {ranking : Ranking} {card : Card} {trust : Bonus}

theorem rated_iff : ranking.Rated card ↔
    ∃ trust, computeTrustBonus ranking.log1p (ranking.stats card) = .ok trust := by
  unfold Ranking.Rated computeTrustBonus
  cases ranking.log1p (ranking.stats card).settledCount with
  | none => simp
  | some counted =>
      cases ranking.log1p (ranking.stats card).settledVolume with
      | none => simp
      | some sold => simp

theorem enrich_of_trust
    (known : computeTrustBonus ranking.log1p (ranking.stats card) = .ok trust) :
    ranking.enrich card = .ok (if ranking.dropIneligible ∧ !(ranking.evaluation card trust).eligible
      then none else some (ranking.filled card (ranking.evaluation card trust))) := by
  rw [Ranking.enrich, Ranking.evaluateCandidatePriority, known, ok_bind, ok_bind]

@[simp] theorem eligible_evaluation :
    (ranking.evaluation card trust).eligible = ranking.eligible card := by
  rw [Ranking.evaluation]

/-- What becomes of a candidate, if nothing raises. -/
def Ranking.kept (ranking : Ranking) (card : Card) : Option Card :=
  (ranking.enrich card).toOption.join

/-- A candidate whose trust is known, with the fields that a turn fills in. -/
def Ranking.turn (ranking : Ranking) (trust : Bonus) (card : Card) : Card :=
  ranking.filled card (ranking.evaluation card trust)

theorem kept_eq_some {once : Card} : ranking.kept card = some once ↔
    ∃ trust, computeTrustBonus ranking.log1p (ranking.stats card) = .ok trust ∧
      ranking.Keeps card ∧ ranking.turn trust card = once := by
  unfold Ranking.kept
  cases known : computeTrustBonus ranking.log1p (ranking.stats card) with
  | error error => simp [Ranking.enrich, Ranking.evaluateCandidatePriority, known, Except.toOption]
  | ok trust =>
      rw [enrich_of_trust known]
      simp only [Except.toOption, Option.join_some, eligible_evaluation, Except.ok.injEq,
        exists_eq_left', Ranking.turn]
      unfold Ranking.Keeps
      cases ranking.dropIneligible <;> cases ranking.eligible card <;> simp

end Turn

/-! ## What a turn fills in -/

section Fields

variable (ranking : Ranking) (card : Card) (trust : Bonus)

@[simp] theorem aid_turn : (ranking.turn trust card).aid = card.aid := rfl

@[simp] theorem agentId_turn : (ranking.turn trust card).agentId = card.agentId := rfl

@[simp] theorem eligible_field :
    (ranking.turn trust card).eligible = some (ranking.eligible card) := by
  rw [Ranking.turn, Ranking.filled, Ranking.evaluation]

@[simp] theorem sceneCovered_field :
    (ranking.turn trust card).sceneCovered = some (ranking.sceneCovered card) := by
  rw [Ranking.turn, Ranking.filled, Ranking.evaluation]

@[simp] theorem trustTierRank_field :
    (ranking.turn trust card).trustTierRank = some (ranking.trustTier card).rank := by
  rw [Ranking.turn, Ranking.filled, Ranking.evaluation]

@[simp] theorem acceptRisk_field :
    (ranking.turn trust card).acceptRisk = ranking.acceptRisk card := by
  rw [Ranking.turn, Ranking.filled]

@[simp] theorem trust_field :
    (ranking.turn trust card).trust = some (ranking.stats card).toDict := by
  rw [Ranking.turn, Ranking.filled]

@[simp] theorem score_field :
    (ranking.turn trust card).score = some (ranking.composite card trust) := by
  rw [Ranking.turn, Ranking.filled, Ranking.evaluation]

@[simp] theorem capabilityScore_field :
    (ranking.turn trust card).capabilityScore = some card.base := by
  rw [Ranking.turn, Ranking.filled, Ranking.evaluation]

/-- A flag that is missing is not true, so it is filled in as false. -/
theorem getD_isTrue (flag : Option Json) :
    flag.getD (.bool (isTrue flag)) = flag.getD (.bool false) := by
  cases flag with
  | none => rfl
  | some value => rfl

@[simp] theorem p1Ready_field : (ranking.turn trust card).p1Ready = card.flagged.p1Ready := by
  rw [Ranking.turn, Ranking.filled, Ranking.evaluation, Card.flagged, getD_isTrue]

@[simp] theorem boundaryComplete_field :
    (ranking.turn trust card).boundaryComplete = card.flagged.boundaryComplete := by
  rw [Ranking.turn, Ranking.filled, Ranking.evaluation, Card.flagged]
  exact congrArg some (getD_isTrue card.boundaryComplete)

end Fields

/-! ## What the next turn reads -/

section Again

variable (ranking : Ranking) (card : Card) (trust : Bonus)

@[simp] theorem stats_turn : ranking.stats (ranking.turn trust card) = ranking.stats card := rfl

@[simp] theorem sceneCovered_turn :
    ranking.sceneCovered (ranking.turn trust card) = ranking.sceneCovered card := rfl

@[simp] theorem sceneRefused_turn :
    ranking.sceneRefused (ranking.turn trust card) = ranking.sceneRefused card := rfl

@[simp] theorem trustTier_turn :
    ranking.trustTier (ranking.turn trust card) = ranking.trustTier card := rfl

@[simp] theorem acceptRisk_turn :
    ranking.acceptRisk (ranking.turn trust card) = ranking.acceptRisk card := rfl

theorem isTrue_getD (flag : Option Json) :
    isTrue (some (flag.getD (.bool false))) = isTrue flag := by
  cases flag with
  | none => rfl
  | some value => rfl

theorem dropReasons_turn :
    ranking.dropReasons (ranking.turn trust card) = ranking.dropReasons card := by
  simp only [Ranking.dropReasons, sceneRefused_turn, sceneCovered_turn, trustTier_turn,
    p1Ready_field, boundaryComplete_field, Card.flagged, isTrue_getD]
  rfl

@[simp] theorem eligible_turn :
    ranking.eligible (ranking.turn trust card) = ranking.eligible card := by
  rw [Ranking.eligible, Ranking.eligible, dropReasons_turn]

theorem keeps_turn : ranking.Keeps (ranking.turn trust card) ↔ ranking.Keeps card := by
  rw [Ranking.Keeps, Ranking.Keeps, eligible_turn]

theorem bonus_turn (later : Bonus) :
    ranking.bonus (ranking.turn trust card) later = ranking.bonus card.flagged later := by
  simp only [Ranking.bonus, Ranking.adjusted, p1Ready_field, boundaryComplete_field,
    sceneRefused_turn, sceneCovered_turn]
  rfl

theorem base_turn : (ranking.turn trust card).base =
    if card.base = 0 then ranking.composite card trust else card.base := by
  rw [Card.base, capabilityScore_field, score_field]
  by_cases zero : card.base = 0 <;> simp [orDefault, Option.filter, zero]

theorem prioritySortKey_congr {item other : Card} (agentId : item.agentId = other.agentId)
    (eligible : item.eligible = other.eligible) (p1Ready : item.p1Ready = other.p1Ready)
    (boundaryComplete : item.boundaryComplete = other.boundaryComplete)
    (sceneCovered : item.sceneCovered = other.sceneCovered)
    (trustTierRank : item.trustTierRank = other.trustTierRank)
    (acceptRisk : item.acceptRisk = other.acceptRisk) (score : item.score = other.score)
    (trust : item.trust = other.trust) : prioritySortKey item = prioritySortKey other := by
  simp only [prioritySortKey, Card.aid, agentId, eligible, p1Ready, boundaryComplete, sceneCovered,
    trustTierRank, acceptRisk, score, trust]

/-- Apart from the score, nothing that a candidate is sorted by changes. -/
theorem key_turn {later : Bonus} (same : (ranking.turn later (ranking.turn trust card)).score =
      (ranking.turn trust card).score) :
    prioritySortKey (ranking.turn later (ranking.turn trust card)) =
      prioritySortKey (ranking.turn trust card) := by
  apply prioritySortKey_congr _ _ _ _ _ _ _ same <;> simp [Card.flagged]

end Again

/-! ## Bonuses as sums -/

section Sums

variable {ranking : Ranking} {card : Card} {trust bonus : Bonus} {condition : Bool} {amount : ℚ}
  {reason : String}

theorem amount_adjust : (bonus.adjust condition amount reason).amount =
    roundedSum 3 bonus.amount (if condition then [amount] else []) := by
  cases condition <;> rfl

theorem amount_remark : (bonus.remark condition reason).amount = bonus.amount := rfl

theorem bonus_eq_total : ranking.bonus card trust = ranking.total trust (ranking.amounts card) := by
  simp only [Ranking.bonus, Ranking.adjusted, amount_adjust, amount_remark, Ranking.total,
    Ranking.amounts, Ranking.sceneAmounts, roundedSum_append]
  rfl

theorem composite_of_base (zero : card.base = 0) :
    ranking.composite card trust = ranking.total trust (ranking.amounts card) := by
  rw [Ranking.composite, zero, zero_add, bonus_eq_total]
  exact roundedSum_grid roundTo_roundTo

/-- The penalties of the policy show in three decimal places. -/
structure Ranking.Penalizes (ranking : Ranking) : Prop where
  boundary : 2 / 10 ^ 3 ≤ orDefault ranking.policy.boundaryIncompletePenalty (3 / 2)
  p1 : 2 / 10 ^ 3 ≤ orDefault ranking.policy.p1NotReadyPenalty 2

theorem total_insert {before after : List ℚ} {penalty : ℚ} (seen : 2 / 10 ^ 3 ≤ penalty) :
    ranking.total trust (before ++ -penalty :: after) + 2 / 10 ^ 3 ≤
      ranking.total trust (before ++ after) := by
  apply roundedSum_insert roundTo_roundTo
  rwa [neg_neg]

theorem total_p1 (penalizes : ranking.Penalizes) (missing : card.p1Ready = none) :
    ranking.total trust (ranking.amounts { card with p1Ready := some (.bool false) }) + 2 / 10 ^ 3 ≤
      ranking.total trust (ranking.amounts card) := by
  simp only [Ranking.amounts, missing, isTrue, isFalse, Bool.not_false, Bool.false_eq_true, if_true,
    if_false, List.nil_append, List.cons_append]
  exact total_insert penalizes.p1

theorem total_boundary (penalizes : ranking.Penalizes) (missing : card.boundaryComplete = none) :
    ranking.total trust (ranking.amounts { card with boundaryComplete := some (.bool false) }) +
        2 / 10 ^ 3 ≤
      ranking.total trust (ranking.amounts card) := by
  simp only [Ranking.amounts, missing, isTrue, isFalse, Bool.not_false, Bool.false_eq_true, if_true,
    if_false, List.nil_append, List.cons_append]
  have inserted (after : List ℚ) := @total_insert ranking trust [] after _ penalizes.boundary
  exact inserted _

/-- A missing flag that is filled in as false lowers the bonus. -/
theorem total_flagged (penalizes : ranking.Penalizes)
    (missing : ¬(card.p1Ready.isSome ∧ card.boundaryComplete.isSome)) :
    ranking.total trust (ranking.amounts card.flagged) + 2 / 10 ^ 3 ≤
      ranking.total trust (ranking.amounts card) := by
  cases isP1Ready : card.p1Ready with
  | none =>
      cases isComplete : card.boundaryComplete with
      | none =>
          have first := @total_p1 ranking card trust penalizes isP1Ready
          have second := @total_boundary ranking { card with p1Ready := some (.bool false) } trust
            penalizes isComplete
          rw [Card.flagged, isP1Ready, isComplete, Option.getD_none]
          linarith
      | some complete =>
          have flagged : card.flagged = { card with p1Ready := some (.bool false) } := by
            simp [Card.flagged, isP1Ready, isComplete]
          rw [flagged]
          exact total_p1 penalizes isP1Ready
  | some ready =>
      cases isComplete : card.boundaryComplete with
      | none =>
          have flagged : card.flagged = { card with boundaryComplete := some (.bool false) } := by
            simp [Card.flagged, isP1Ready, isComplete]
          rw [flagged]
          exact total_boundary penalizes isComplete
      | some complete => simp [isP1Ready, isComplete] at missing

/-- If the penalties show, a steady candidate has both flags. -/
theorem steadyWith_iff (penalizes : ranking.Penalizes) : ranking.SteadyWith trust card ↔
    (card.base ≠ 0 ∨ ranking.total trust (ranking.amounts card) = 0) ∧
      card.p1Ready.isSome ∧ card.boundaryComplete.isSome := by
  constructor
  · intro steady
    refine ⟨steady.scored, ?_⟩
    rcases steady.flagged with flags | same
    · exact flags
    · by_contra missing
      have lower := @total_flagged ranking card trust penalizes missing
      have apart : roundTo 3 (card.base + ranking.total trust (ranking.amounts card.flagged)) +
          2 / 10 ^ 3 ≤ roundTo 3 (card.base + ranking.total trust (ranking.amounts card)) := by
        apply roundTo_gap
        linarith
      rw [same] at apart
      norm_num at apart
  · intro ⟨scored, flags⟩
    exact ⟨scored, .inl flags⟩

end Sums

/-! ## Stability -/

section Steadiness

variable {ranking : Ranking} {card : Card} {trust : Bonus} {candidates : List Card}

/-- Both flags are there already. -/
theorem flagged_eq_self (flags : card.p1Ready.isSome ∧ card.boundaryComplete.isSome) :
    card.flagged = card := by
  obtain ⟨p1Ready, isP1Ready⟩ := Option.isSome_iff_exists.1 flags.1
  obtain ⟨complete, isComplete⟩ := Option.isSome_iff_exists.1 flags.2
  rw [Card.flagged, isP1Ready, isComplete, Option.getD_some, Option.getD_some, ← isP1Ready,
    ← isComplete]

/-- A second turn starts from the same capability score exactly if there is one, or no bonus. -/
theorem base_turn_iff : (ranking.turn trust card).base = card.base ↔
    card.base ≠ 0 ∨ ranking.total trust (ranking.amounts card) = 0 := by
  rw [base_turn]
  by_cases zero : card.base = 0
  · simp [zero, composite_of_base]
  · simp [zero]

theorem composite_turn (base : (ranking.turn trust card).base = card.base) :
    ranking.composite (ranking.turn trust card) trust =
      roundTo 3 (card.base + ranking.total trust (ranking.amounts card.flagged)) := by
  rw [Ranking.composite, base, bonus_turn, bonus_eq_total]

/-- Another turn changes nothing exactly if the candidate is steady. -/
theorem view_turn_iff :
    (ranking.turn trust (ranking.turn trust card)).view = (ranking.turn trust card).view ↔
      ranking.SteadyWith trust card := by
  have same : (ranking.turn trust (ranking.turn trust card)).view = (ranking.turn trust card).view ↔
      (ranking.turn trust card).base = card.base ∧
        ranking.composite (ranking.turn trust card) trust = ranking.composite card trust := by
    simp only [Card.view, agentId_turn, score_field, capabilityScore_field, Prod.mk.injEq, true_and,
      Option.some.injEq]
    exact and_comm
  have before : ranking.composite card trust =
      roundTo 3 (card.base + ranking.total trust (ranking.amounts card)) := by
    rw [Ranking.composite, bonus_eq_total]
  rw [same]
  constructor
  · intro ⟨base, composite⟩
    rw [composite_turn base, before] at composite
    exact ⟨base_turn_iff.1 base, .inr composite⟩
  · intro steady
    have base := base_turn_iff.2 steady.scored
    rw [composite_turn base, before]
    rcases steady.flagged with flags | composite
    · exact ⟨base, by rw [flagged_eq_self flags]⟩
    · exact ⟨base, composite⟩

theorem kept_turn (known : computeTrustBonus ranking.log1p (ranking.stats card) = .ok trust)
    (keeps : ranking.Keeps card) : ranking.kept (ranking.turn trust card) =
      some (ranking.turn trust (ranking.turn trust card)) := by
  apply kept_eq_some.2
  exact ⟨trust, known, (keeps_turn ranking card trust).2 keeps, rfl⟩

/-- A candidate is settled exactly if it is dropped or steady. -/
theorem settled_iff :
    Settled ranking.kept Card.view card ↔ (ranking.Keeps card → ranking.Steady card) := by
  constructor
  · intro settled keeps trust known
    have first : ranking.kept card = some (ranking.turn trust card) :=
      kept_eq_some.2 ⟨trust, known, keeps, rfl⟩
    exact view_turn_iff.1 (settled _ first _ (kept_turn known keeps))
  · intro steady once first twice second
    obtain ⟨trust, known, keeps, rfl⟩ := kept_eq_some.1 first
    rw [kept_turn known keeps] at second
    obtain rfl := Option.some.inj second
    exact view_turn_iff.2 (steady keeps trust known)

theorem resumes : Resumes ranking.kept prioritySortKey Card.view := by
  intro card once first
  obtain ⟨trust, known, keeps, rfl⟩ := kept_eq_some.1 first
  refine ⟨_, kept_turn known keeps, ?_⟩
  intro same
  exact key_turn ranking card trust (congrArg (fun view => view.2.1) same)

theorem named : Named ranking.kept prioritySortKey Card.view Card.aid where
  kept card once first := by
    obtain ⟨trust, _, _, rfl⟩ := kept_eq_some.1 first
    exact aid_turn ranking card trust
  told left right same := by
    simp only [prioritySortKey, Prod.mk.injEq, toLex_inj] at same
    exact same.2.2.2.2.2.2.2.2.2.2.2
  shown left right same := by
    have agents : left.agentId = right.agentId := congrArg (fun view => view.1) same
    rw [Card.aid, Card.aid, agents]

theorem rated_of_kept {once : Card} (first : ranking.kept card = some once) :
    ranking.Rated once := by
  obtain ⟨trust, known, _, rfl⟩ := kept_eq_some.1 first
  exact rated_iff.2 ⟨trust, known⟩

/-- If nothing raises, the candidates that are kept are ranked. -/
theorem apply_of_rated (rated : ∀ card ∈ candidates, ranking.Rated card) (limit : Option ℕ) :
    ranking.applyPriorityRanking candidates limit =
      .ok (limited limit (rank ranking.kept prioritySortKey candidates)) := by
  have runs : ∀ card ∈ candidates, ∃ value, ranking.enrich card = .ok value := by
    intro card member
    obtain ⟨trust, known⟩ := rated_iff.1 (rated card member)
    exact ⟨_, enrich_of_trust known⟩
  obtain ⟨enriched, ran⟩ := mapM_ok runs
  rw [Ranking.applyPriorityRanking, ran, ok_bind, mapM_reduceOption ran]
  rfl

theorem apply_of_not_rated (unrated : ¬∀ card ∈ candidates, ranking.Rated card)
    (limit : Option ℕ) :
    ranking.applyPriorityRanking candidates limit = .error .mathDomain := by
  cases ran : candidates.mapM ranking.enrich with
  | error error =>
      rw [Ranking.applyPriorityRanking, ran]
      cases error
      rfl
  | ok enriched =>
      apply absurd _ unrated
      intro card member
      obtain ⟨value, runs⟩ := runs_of_mapM_ok ran member
      obtain ⟨pri, evaluated, _⟩ := bind_eq_ok.1 runs
      obtain ⟨trust, known, _⟩ := bind_eq_ok.1 evaluated
      exact rated_iff.2 ⟨trust, known⟩

/-- The order in which the candidates are listed does not matter. -/
theorem apply_of_perm (distinct : (candidates.map Card.aid).Nodup) {others : List Card}
    (perm : others.Perm candidates) (limit : Option ℕ) :
    ranking.applyPriorityRanking others limit = ranking.applyPriorityRanking candidates limit := by
  by_cases rated : ∀ card ∈ candidates, ranking.Rated card
  · rw [apply_of_rated rated, apply_of_rated fun card member => rated card (perm.mem_iff.1 member),
      rank_of_perm named (List.pairwise_map.1 distinct) perm.symm]
  · rw [apply_of_not_rated rated, apply_of_not_rated]
    intro otherRated
    exact rated fun card member => otherRated card (perm.mem_iff.2 member)

/-- A limit cuts the list. -/
theorem apply_limit (count : ℕ) : ranking.applyPriorityRanking candidates (some count) =
    (ranking.applyPriorityRanking candidates none).map (List.take count) := by
  by_cases rated : ∀ card ∈ candidates, ranking.Rated card
  · rw [apply_of_rated rated, apply_of_rated rated]
    rfl
  · rw [apply_of_not_rated rated, apply_of_not_rated rated]
    rfl

/-- What has been ranked can be ranked again. -/
theorem apply_again (limit : Option ℕ) :
    ranking.applyPriorityRanking
        (limited limit (rank ranking.kept prioritySortKey candidates)) limit =
      .ok (limited limit (rank ranking.kept prioritySortKey
        (limited limit (rank ranking.kept prioritySortKey candidates)))) := by
  apply apply_of_rated
  intro once member
  obtain ⟨card, _, first⟩ := mem_rank.1 ((limited_sublist limit _).subset member)
  exact rated_of_kept first

/-- In a stable ranking, every candidate is settled. -/
theorem RankingStable.settled (stable : RankingStable ranking candidates)
    (distinct : (candidates.map Card.aid).Nodup) (rated : ∀ card ∈ candidates, ranking.Rated card) :
    ∀ card ∈ candidates, Settled ranking.kept Card.view card := by
  apply (rank_rank_iff named resumes (List.pairwise_map.1 distinct)).1
  intro limit
  obtain ⟨again, ranAgain, same⟩ := stable.repeated limit _ (apply_of_rated rated limit)
  rw [apply_again] at ranAgain
  rw [Except.ok.inj ranAgain, same]

/-- A stable ranking of one candidate keeps a steady one. -/
theorem RankingStable.steadyWith (stable : RankingStable ranking [card])
    (known : computeTrustBonus ranking.log1p (ranking.stats card) = .ok trust)
    (keeps : ranking.Keeps card) : ranking.SteadyWith trust card := by
  have rated : ∀ other ∈ [card], ranking.Rated other := by
    intro other member
    obtain rfl := List.mem_singleton.1 member
    exact rated_iff.2 ⟨trust, known⟩
  have settled := stable.settled (List.nodup_singleton _) rated card List.mem_cons_self
  exact settled_iff.1 settled keeps trust known

end Steadiness

/-- A ranking is stable exactly if every candidate that it keeps is steady. If the statistics of
some candidate are refused, nothing is ever ranked. -/
theorem ranking_stable_iff (ranking : Ranking) (candidates : List Card)
    (distinct : (candidates.map Card.aid).Nodup) : RankingStable ranking candidates ↔
      ((∀ card ∈ candidates, ranking.Rated card) →
        ∀ card ∈ candidates, ranking.Keeps card → ranking.Steady card) := by
  constructor
  · intro stable rated card member
    exact settled_iff.1 (stable.settled distinct rated card member)
  · intro steady
    refine ⟨fun others limit perm => apply_of_perm distinct perm limit, ?_, apply_limit⟩
    intro limit ranked ran
    by_cases rated : ∀ card ∈ candidates, ranking.Rated card
    · rw [apply_of_rated rated] at ran
      obtain rfl := Except.ok.inj ran
      refine ⟨_, apply_again limit, ?_⟩
      apply (rank_rank_iff named resumes (List.pairwise_map.1 distinct)).2
      intro card member
      exact settled_iff.2 (steady rated card member)
    · rw [apply_of_not_rated rated] at ran
      cases ran

namespace Demo

/-- A ranking of agents without a history. -/
def ranking : Ranking where
  log1p value := if value = 0 then some 0 else none
  catalog :=
    { globalDefaults :=
        { requireP1Ready := some false
          requireBoundaryComplete := some false
          requireSceneCoverage := some false
          allowColdStart := some true
          minSettledCountForProven := some 3
          minSuccessRateForProven := some (4 / 5)
          maxDisputeRate := some (1 / 4)
          trustWeight := some 1
          sceneCoverageBonus := some 3
          boundaryIncompletePenalty := some (3 / 2)
          p1ReadyBonus := some 2
          p1NotReadyPenalty := some 2
          preferredIdentityClasses := some ["merchant", "enterprise"] } }
  policies :=
    { scenes := fun _ => none
      globalDefaults := fun _ _ => none
      appEnv := "production"
      lifecycleSteps := []
      lower := String.toLower
      contentHash := fun _ => "sha256:" }
  acceptEnrichment _ _ := none
  statsMap _ := none
  sceneId := some "food_delivery"

/-- What an agent without a history starts with. -/
def trust : Bonus where
  amount := 13 / 4
  reasons := ["reputation:100.0", "success_rate:0.50", "cold_start"]

theorem trust_known (card : Card) :
    computeTrustBonus ranking.log1p (ranking.stats card) = .ok trust := by
  have stats : ranking.stats card = {} := rfl
  rw [stats]
  decide +kernel

/-- A candidate that matches nothing, with both flags. -/
def unscored : Card where
  agentId := some "agent-a"
  score := some 0
  p1Ready := some (.bool true)
  boundaryComplete := some (.bool true)

/-- A candidate without flags. -/
def unflagged : Card where
  agentId := some "agent-b"
  score := some 8

/-- Two candidates that match, with both flags. -/
def partners : List Card :=
  [{ agentId := some "agent-c", score := some 8, p1Ready := some (.bool true),
     boundaryComplete := some (.bool false) },
    { agentId := some "agent-d", score := some 20, p1Ready := some (.bool false),
      boundaryComplete := some (.bool true) }]

end Demo

theorem ranking_stable_iff_partners : RankingStable Demo.ranking Demo.partners := by
  apply (ranking_stable_iff Demo.ranking Demo.partners (by decide)).2
  intro _ card member _ trust known
  rcases List.mem_pair.1 member with rfl | rfl
  · exact ⟨.inl (by decide +kernel), .inl ⟨rfl, rfl⟩⟩
  · exact ⟨.inl (by decide +kernel), .inl ⟨rfl, rfl⟩⟩

/-- A score of zero gives way to the composite score, and missing flags become false ones. -/
theorem not_ranking_stable : ¬RankingStable Demo.ranking [Demo.unscored] ∧
    ¬RankingStable Demo.ranking [Demo.unflagged] := by
  constructor
  · intro stable
    have steady := stable.steadyWith (Demo.trust_known _) fun _ => by decide +kernel
    exact absurd steady.scored (by decide +kernel)
  · intro stable
    have steady := stable.steadyWith (Demo.trust_known _) fun _ => by decide +kernel
    exact absurd steady.flagged (by decide +kernel)

end TrustChain.Discovery
