import TrustChain.Scoring.Engine

/-!
# Scores on the scale

Neither the ratio of a call nor, for two of the calls, the registration of the party is checked.
Along the runs whose calls pass these checks by themselves, every score stays on the scale, no
call of the settler overflows, and a vector without registration stays blank. A seller who is
penalised loses reputation even if it has won.
-/

namespace TrustChain.Scoring

open Library Function

/-! ## The rolling average -/

/-- The average with a new value is not above the scale. -/
def Fits (currentAvg newValue totalCount : Nat) : Prop :=
  if totalCount ≤ 1 then newValue ≤ maxScore
  else currentAvg * (totalCount - 1) + newValue < (maxScore + 1) * totalCount

/-- An average over so many values cannot overflow as long as it is on the scale. -/
def Countable (totalCount : Nat) : Prop := (maxScore + 1) * totalCount ≤ wordSize

instance (totalCount : Nat) : Decidable (Countable totalCount) :=
  inferInstanceAs (Decidable (_ ≤ _))

instance (currentAvg newValue totalCount : Nat) : Decidable (Fits currentAvg newValue totalCount) :=
  inferInstanceAs (Decidable (if totalCount ≤ 1 then newValue ≤ maxScore
    else currentAvg * (totalCount - 1) + newValue < (maxScore + 1) * totalCount))

/-- Between what it was and the new value. -/
def InRange (previous new value : Nat) : Prop :=
  min previous new ≤ value ∧ value ≤ max previous new

section Averages

variable {currentAvg newValue totalCount value : Nat}

theorem InRange.refl (previous new : Nat) : InRange previous new previous :=
  ⟨min_le_left _ _, le_max_left _ _⟩

theorem fits_of_le (current : currentAvg ≤ maxScore) (new : newValue ≤ maxScore) :
    Fits currentAvg newValue totalCount := by
  rw [Fits]
  split
  · exact new
  · next many =>
      have old : currentAvg * (totalCount - 1) ≤ maxScore * (totalCount - 1) :=
        Nat.mul_le_mul_right _ current
      have whole : maxScore * (totalCount - 1) + maxScore = maxScore * totalCount := by
        rw [← Nat.mul_succ]
        congr 1
        omega
      rw [Nat.add_mul]
      omega

/-- An average that fits exists, is on the scale, and lies between the old one and the value. -/
theorem rollingAvg_ok (fits : Fits currentAvg newValue totalCount)
    (countable : Countable totalCount) :
    ∃ average, rollingAvg currentAvg newValue totalCount = .ok average ∧ average ≤ maxScore ∧
      InRange currentAvg newValue average := by
  rw [Fits] at fits
  rw [rollingAvg]
  split
  case isTrue few =>
    rw [if_pos few] at fits
    exact ⟨newValue, rfl, fits, min_le_right _ _, le_max_right _ _⟩
  case isFalse many =>
    rw [if_neg many] at fits
    rw [Countable] at countable
    have sum : currentAvg * (totalCount - 1) + newValue < wordSize := fits.trans_le countable
    have old : currentAvg * (totalCount - 1) < wordSize := by omega
    refine ⟨(currentAvg * (totalCount - 1) + newValue) / totalCount, ?_, ?_, ?_, ?_⟩
    · rw [checkedMul, if_pos old, ok_bind, checkedAdd, if_pos sum, ok_bind]
    · exact Nat.lt_succ_iff.mp (Nat.div_lt_of_lt_mul (Nat.mul_comm _ totalCount ▸ fits))
    · rw [Nat.le_div_iff_mul_le (by omega)]
      obtain ⟨count, rfl⟩ : ∃ count, totalCount = count + 1 := ⟨totalCount - 1, by omega⟩
      rw [Nat.mul_succ, Nat.add_sub_cancel]
      exact Nat.add_le_add (Nat.mul_le_mul_right _ (min_le_left _ _)) (min_le_right _ _)
    · refine Nat.div_le_of_le_mul ?_
      obtain ⟨count, rfl⟩ : ∃ count, totalCount = count + 1 := ⟨totalCount - 1, by omega⟩
      rw [Nat.succ_mul, Nat.add_sub_cancel, Nat.mul_comm count]
      exact Nat.add_le_add (Nat.mul_le_mul_right _ (le_max_left _ _)) (le_max_right _ _)

theorem boundedAdd_ok {current : Nat} (delta : Nat) (scaled : current ≤ maxScore)
    (small : delta ≤ maxScore) :
    ∃ raised, boundedAdd current delta = .ok raised ∧ current ≤ raised ∧ raised ≤ maxScore := by
  have fits : current + delta < wordSize := by
    have room : maxScore + maxScore < wordSize := by decide
    omega
  rw [boundedAdd, checkedAdd, if_pos fits, ok_bind]
  refine ⟨_, rfl, ?_⟩
  split <;> omega

theorem decayScore_le (current weight : Nat) : decayScore current weight ≤ current := by
  rw [decayScore]
  split <;> omega

theorem sample_le (success : Bool) : sample success ≤ maxScore := by
  cases success <;> decide

end Averages

/-! ## Vectors -/

namespace ScoringVector

structure OnScale (sv : ScoringVector) : Prop where
  reputationScore : sv.reputationScore ≤ maxScore
  completionRate : sv.completionRate ≤ maxScore
  avgCompletionSpeed : sv.avgCompletionSpeed ≤ maxScore
  disputeRate : sv.disputeRate ≤ maxScore
  disputeWinRate : sv.disputeWinRate ≤ maxScore
  confirmationSpeed : sv.confirmationSpeed ≤ maxScore
  maliciousDisputeRate : sv.maliciousDisputeRate ≤ maxScore
  verificationAccuracy : sv.verificationAccuracy ≤ maxScore

/-- The counters have room for one more call. -/
structure Roomy (sv : ScoringVector) : Prop where
  totalTransactions : Countable (sv.totalTransactions + 2)
  verificationVolume : Countable (sv.verificationVolume + 1)
  penaltyCount : sv.penaltyCount + 1 < wordSize

/-- The rates of disputes stay. -/
structure SameRates (sv next : ScoringVector) : Prop where
  disputeRate : next.disputeRate = sv.disputeRate
  disputeWinRate : next.disputeWinRate = sv.disputeWinRate

/-- An update that counts one transaction at most, and no verification. -/
structure Traded (sv next : ScoringVector) : Prop where
  onScale : next.OnScale
  totalTransactions : next.totalTransactions ≤ sv.totalTransactions + 1
  verificationVolume : next.verificationVolume = sv.verificationVolume

/-- An update that counts nothing, and leaves the rates and the reputation where they are or
lowers or raises the latter, as `rises` says. -/
structure Updated (sv next : ScoringVector) (rises : Prop) : Prop where
  onScale : next.OnScale
  same : sv.SameRates next
  reputationScore : rises → sv.reputationScore ≤ next.reputationScore

variable {sv : ScoringVector} {timestamp : Nat}

theorem countable_le {few many : Nat} (countable : Countable many) (le : few ≤ many) :
    Countable few :=
  (Nat.mul_le_mul_left _ le).trans countable

theorem lt_of_countable {count : Nat} (countable : Countable (count + 1)) :
    count + 1 < wordSize := by
  rw [Countable, maxScore] at countable
  omega

theorem settleSeller_ok {onTime : Bool} {speedRatio : Nat} (scaled : sv.OnScale)
    (countable : Countable (sv.totalTransactions + 1))
    (fits : Fits sv.avgCompletionSpeed speedRatio (sv.totalTransactions + 1)) :
    ∃ next, sv.settleSeller timestamp onTime speedRatio = .ok next ∧ sv.Traded next ∧
      sv.SameRates next := by
  obtain ⟨rate, rated, rateLe, -⟩ := rollingAvg_ok
    (fits_of_le scaled.completionRate (sample_le onTime)) countable
  obtain ⟨speed, timed, speedLe, -⟩ := rollingAvg_ok fits countable
  obtain ⟨raised, adds, -, raisedLe⟩ := boundedAdd_ok
    (if onTime then settleWeight else 0) scaled.reputationScore
    (by cases onTime <;> decide)
  rw [settleSeller, checkedAdd, if_pos (lt_of_countable countable), ok_bind, rated, ok_bind, timed,
    ok_bind, adds, ok_bind]
  refine ⟨_, rfl, ⟨?_, le_rfl, rfl⟩, rfl, rfl⟩
  exact { scaled with
    reputationScore := raisedLe, completionRate := rateLe, avgCompletionSpeed := speedLe }

theorem settleBuyer_ok (scaled : sv.OnScale) (countable : Countable (sv.totalTransactions + 1)) :
    ∃ next, sv.settleBuyer timestamp = .ok next ∧ sv.Traded next ∧ sv.SameRates next := by
  obtain ⟨raised, adds, -, raisedLe⟩ := boundedAdd_ok (settleWeight / 2)
    scaled.reputationScore (by decide)
  rw [settleBuyer, checkedAdd, if_pos (lt_of_countable countable), ok_bind, adds, ok_bind]
  exact ⟨_, rfl, ⟨{ scaled with reputationScore := raisedLe }, le_rfl, rfl⟩, rfl, rfl⟩

theorem settleVerifier_ok {correct : Bool} (scaled : sv.OnScale)
    (countable : Countable (sv.verificationVolume + 1)) :
    ∃ next, sv.settleVerifier timestamp correct = .ok next ∧ sv.Updated next True := by
  obtain ⟨accuracy, rated, accuracyLe, -⟩ := rollingAvg_ok
    (fits_of_le scaled.verificationAccuracy (sample_le correct)) countable
  obtain ⟨raised, adds, rises, raisedLe⟩ := boundedAdd_ok
    (if correct then settleWeight else 0) scaled.reputationScore
    (by cases correct <;> decide)
  rw [settleVerifier, checkedAdd, if_pos (lt_of_countable countable), ok_bind, rated, ok_bind, adds,
    ok_bind]
  refine ⟨_, rfl, ?_, ⟨rfl, rfl⟩, fun _ => rises⟩
  exact { scaled with reputationScore := raisedLe, verificationAccuracy := accuracyLe }

theorem judgeSeller_ok (won wasPenalty : Bool) (scaled : sv.OnScale)
    (room : sv.penaltyCount + 1 < wordSize) :
    ∃ next, sv.judgeSeller won wasPenalty = .ok next ∧
      next.totalTransactions = sv.totalTransactions ∧
      next.verificationVolume = sv.verificationVolume ∧
      sv.Updated next (won = true ∧ wasPenalty = false) := by
  rw [judgeSeller]
  split
  case isTrue penalised =>
    rw [checkedAdd, if_pos room, ok_bind]
    have decays := (decayScore_le sv.reputationScore penaltyWeight).trans scaled.reputationScore
    refine ⟨_, rfl, rfl, rfl, { scaled with reputationScore := decays }, ⟨rfl, rfl⟩, ?_⟩
    intro spared
    exact absurd (penalised.symm.trans spared.2) Bool.noConfusion
  case isFalse =>
    split
    case isTrue =>
      obtain ⟨raised, adds, rises, raisedLe⟩ := boundedAdd_ok (disputeWeight / 2)
        scaled.reputationScore (by decide)
      rw [adds, ok_bind]
      exact ⟨_, rfl, rfl, rfl, { scaled with reputationScore := raisedLe }, ⟨rfl, rfl⟩,
        fun _ => rises⟩
    case isFalse lost =>
      have decays := (decayScore_le sv.reputationScore disputeWeight).trans scaled.reputationScore
      exact ⟨_, rfl, rfl, rfl, { scaled with reputationScore := decays }, ⟨rfl, rfl⟩,
        fun winner => absurd winner.1 lost⟩

theorem disputeSeller_ok {won wasPenalty : Bool} (scaled : sv.OnScale) (roomy : sv.Roomy) :
    ∃ next, sv.disputeSeller timestamp won wasPenalty = .ok next ∧ sv.Traded next ∧
      InRange sv.disputeRate maxScore next.disputeRate ∧
      InRange sv.disputeWinRate (sample won) next.disputeWinRate ∧
      (won = true ∧ wasPenalty = false → sv.reputationScore ≤ next.reputationScore) := by
  have countable : Countable (sv.totalTransactions + 1) :=
    countable_le roomy.totalTransactions (Nat.le_succ _)
  have judged : Countable (atLeastOne sv.totalTransactions) := by
    refine countable_le countable ?_
    rw [atLeastOne]
    split <;> omega
  obtain ⟨rate, rated, rateLe, rateIn⟩ := rollingAvg_ok
    (fits_of_le scaled.disputeRate le_rfl) countable
  obtain ⟨wins, counted, winsLe, winsIn⟩ := rollingAvg_ok
    (fits_of_le scaled.disputeWinRate (sample_le won)) judged
  have rates : OnScale { sv with disputeRate := rate, disputeWinRate := wins } :=
    { scaled with disputeRate := rateLe, disputeWinRate := winsLe }
  obtain ⟨next, judges, traded, verified, updated⟩ :=
    judgeSeller_ok won wasPenalty rates roomy.penaltyCount
  rw [disputeSeller, checkedAdd, if_pos (lt_of_countable countable), ok_bind, rated, ok_bind,
    counted, ok_bind, judges, ok_bind]
  refine ⟨_, rfl, ⟨{ updated.onScale with }, ?_, verified⟩, ?_, ?_, updated.reputationScore⟩
  · exact traded.le.trans (Nat.le_succ _)
  · change InRange _ _ next.disputeRate
    rwa [updated.same.disputeRate]
  · change InRange _ _ next.disputeWinRate
    rwa [updated.same.disputeWinRate]

theorem disputeBuyer_ok {won : Bool} (scaled : sv.OnScale) (roomy : Countable (sv.totalTransactions + 1)) :
    ∃ next, sv.disputeBuyer timestamp won = .ok next ∧
      next.verificationVolume = sv.verificationVolume ∧ sv.Updated next (won = true) := by
  rw [disputeBuyer]
  split
  case isTrue => exact ⟨_, rfl, rfl, { scaled with }, ⟨rfl, rfl⟩, fun _ => le_rfl⟩
  case isFalse lost =>
    have countable : Countable (atLeastOne sv.totalTransactions) := by
      refine countable_le roomy ?_
      rw [atLeastOne]
      split <;> omega
    obtain ⟨rate, rated, rateLe, -⟩ := rollingAvg_ok
      (fits_of_le scaled.maliciousDisputeRate le_rfl) countable
    have decays := (decayScore_le sv.reputationScore disputeWeight).trans scaled.reputationScore
    rw [rated, ok_bind]
    refine ⟨_, rfl, rfl, ?_, ⟨rfl, rfl⟩, fun wins => absurd wins lost⟩
    exact { scaled with reputationScore := decays, maliciousDisputeRate := rateLe }

theorem slashVerifier_onScale {next : ScoringVector} (scaled : sv.OnScale)
    (ran : sv.slashVerifier timestamp = .ok next) : next.OnScale ∧ sv.SameRates next := by
  rw [slashVerifier, checkedAdd_bind_eq_ok] at ran
  obtain rfl := Except.ok.inj ran.2
  have reputation := (decayScore_le sv.reputationScore penaltyWeight).trans scaled.reputationScore
  have accuracy :=
    (decayScore_le sv.verificationAccuracy penaltyWeight).trans scaled.verificationAccuracy
  exact ⟨{ scaled with reputationScore := reputation, verificationAccuracy := accuracy }, rfl, rfl⟩

theorem confirmBuyer_ok {speedRatio : Nat} (scaled : sv.OnScale)
    (countable : Countable sv.totalTransactions)
    (fits : Fits sv.confirmationSpeed speedRatio sv.totalTransactions) :
    ∃ next, sv.confirmBuyer timestamp speedRatio = .ok next ∧ next.OnScale ∧
      sv.SameRates next := by
  obtain ⟨speed, timed, speedLe, -⟩ := rollingAvg_ok fits countable
  rw [confirmBuyer, timed, ok_bind]
  exact ⟨_, rfl, { scaled with confirmationSpeed := speedLe }, rfl, rfl⟩

end ScoringVector

theorem freshVector_onScale (timestamp : Nat) : (freshVector timestamp).OnScale := by
  have default_ : defaultScore ≤ maxScore := by decide
  exact ⟨default_, default_, default_, Nat.zero_le _, default_, default_, Nat.zero_le _, default_⟩

end TrustChain.Scoring
