import TrustChain.Scoring.Scale

/-!
# Runs of the scoring engine

What each call does to the vectors when it is regular, and what a run of regular calls keeps.
-/

namespace TrustChain.Scoring

open Library Function ScoringVector

/-- Every score of every party is on the scale. -/
def World.Scaled (world : World) : Prop := ∀ party, (world.storage.scores party).OnScale

/-- A party that is not registered keeps its vector. -/
def Skips (world next : World) : Prop :=
  ∀ party, (world.storage.scores party).lastUpdated = 0 →
    next.storage.scores party = world.storage.scores party

/-- The checks that the calls do not make: a ratio that keeps the average on the scale, a party
that is registered, a seller that has not won the dispute for which it is penalised and does not
dispute with itself, and counters that have room. -/
def Regular (world : World) : Call → Prop
  | .setAuthorizedSettler _ => True
  | .registerParty _ _ => True
  | .recordSettlement seller buyer verifier _ speedRatio =>
      (∀ party ∈ [seller, buyer, verifier], (world.storage.scores party).Roomy) ∧
        ((world.storage.scores seller).lastUpdated ≠ 0 →
          Fits (world.storage.scores seller).avgCompletionSpeed speedRatio
            ((world.storage.scores seller).totalTransactions + 1))
  | .recordDisputeResolution seller buyer verifier sellerWon wasPenalty =>
      (∀ party ∈ [seller, buyer, verifier], (world.storage.scores party).Roomy) ∧
        ((world.storage.scores seller).lastUpdated ≠ 0 →
          (world.storage.scores seller).reputationScore ≠ 0 →
            seller ≠ buyer ∧ ¬(sellerWon = true ∧ wasPenalty = true))
  | .recordVerifierSlashed verifier => (world.storage.scores verifier).lastUpdated ≠ 0
  | .recordBuyerConfirmation buyer speedRatio =>
      (world.storage.scores buyer).lastUpdated ≠ 0 ∧ (world.storage.scores buyer).Roomy ∧
        Fits (world.storage.scores buyer).confirmationSpeed speedRatio
          (world.storage.scores buyer).totalTransactions

/-- The party that wins a dispute. -/
def Call.winner : Call → Option Address
  | .recordDisputeResolution seller buyer _ sellerWon _ =>
      some (if sellerWon then seller else buyer)
  | _ => none

/-- A dispute moves the rates of its seller toward the new samples; nothing else but a
registration moves rates. -/
def RatesFollow (world : World) (call : Call) (next : World) : Prop :=
  match call with
  | .registerParty _ _ => True
  | .recordDisputeResolution seller _ _ sellerWon _ =>
      InRange (world.storage.scores seller).disputeRate maxScore
          (next.storage.scores seller).disputeRate ∧
        InRange (world.storage.scores seller).disputeWinRate (sample sellerWon)
          (next.storage.scores seller).disputeWinRate ∧
        ∀ party, party ≠ seller →
          (world.storage.scores party).SameRates (next.storage.scores party)
  | _ => ∀ party, (world.storage.scores party).SameRates (next.storage.scores party)

/-- The vectors after the update of one registered party. -/
def Rescored (property : ScoringVector → ScoringVector → Prop) (party : Address)
    (world next : World) : Prop :=
  ∀ other, next.storage.scores other = world.storage.scores other ∨
    other = party ∧ (world.storage.scores other).lastUpdated ≠ 0 ∧
      property (world.storage.scores other) (next.storage.scores other)

section Updates

variable {world next : World} {party other verifier : Address} {msg : Message}
  {change : ScoringVector → Except Error ScoringVector}
  {property : ScoringVector → ScoringVector → Prop} {sv : ScoringVector}

theorem ScoringVector.SameRates.refl (sv : ScoringVector) : sv.SameRates sv := ⟨rfl, rfl⟩

theorem ScoringVector.SameRates.trans {first second third : ScoringVector} (one : first.SameRates second)
    (two : second.SameRates third) : first.SameRates third :=
  ⟨two.disputeRate.trans one.disputeRate, two.disputeWinRate.trans one.disputeWinRate⟩

theorem rescore_ok (ran : change (world.storage.scores party) = .ok sv) :
    world.rescore party change =
      .ok ((world.setVector party sv).emit (.scoreVectorUpdated party)) := by
  rw [World.rescore, ran, ok_bind]

theorem rescore_eq_ok (ran : world.rescore party change = .ok next) :
    ∃ sv, change (world.storage.scores party) = .ok sv ∧
      next = (world.setVector party sv).emit (.scoreVectorUpdated party) := by
  rw [World.rescore, bind_eq_ok] at ran
  obtain ⟨sv, changed, stored⟩ := ran
  exact ⟨sv, changed, (Except.ok.inj stored).symm⟩

theorem rescored_setVector (registered : (world.storage.scores party).lastUpdated ≠ 0)
    (holds : property (world.storage.scores party) sv) :
    Rescored property party world
      ((world.setVector party sv).emit (.scoreVectorUpdated party)) := by
  intro other
  by_cases same : other = party
  · subst same
    refine .inr ⟨rfl, registered, ?_⟩
    change property _ (update world.storage.scores other sv other)
    rwa [update_self]
  · exact .inl (update_of_ne same _ _)

/-- The update of a party succeeds if that of a registered one does. -/
theorem rescoreRegistered_ok
    (changes : (world.storage.scores party).lastUpdated ≠ 0 →
      ∃ sv, change (world.storage.scores party) = .ok sv ∧
        property (world.storage.scores party) sv) :
    ∃ next, world.rescoreRegistered party change = .ok next ∧
      Rescored property party world next := by
  rw [World.rescoreRegistered]
  split
  case isTrue => exact ⟨world, rfl, fun _ => .inl rfl⟩
  case isFalse registered =>
    obtain ⟨sv, ran, holds⟩ := changes registered
    exact ⟨_, rescore_ok ran, rescored_setVector registered holds⟩

theorem rescoreVerifier_ok {correct : Bool} (scaled : world.Scaled)
    (countable : Countable ((world.storage.scores verifier).verificationVolume + 1)) :
    ∃ next, world.rescoreVerifier msg.timestamp verifier correct = .ok next ∧
      Rescored (fun sv next => sv.Updated next True) verifier world next := by
  rw [World.rescoreVerifier]
  split
  case isTrue => exact ⟨world, rfl, fun _ => .inl rfl⟩
  case isFalse =>
    exact rescoreRegistered_ok fun _ => settleVerifier_ok (scaled verifier) countable

namespace Rescored

variable (rescored : Rescored property party world next)

include rescored

theorem skips : Skips world next := by
  intro other unregistered
  exact (rescored other).resolve_right fun changed => changed.2.1 unregistered

theorem elsewhere (different : other ≠ party) :
    next.storage.scores other = world.storage.scores other :=
  (rescored other).resolve_right fun changed => different changed.1

/-- What holds of an unchanged vector and of a changed one. -/
theorem all (relation : ScoringVector → ScoringVector → Prop) (refl : ∀ sv, relation sv sv)
    (changed : ∀ sv next, property sv next → relation sv next) (other : Address) :
    relation (world.storage.scores other) (next.storage.scores other) := by
  rcases rescored other with same | ⟨-, -, holds⟩
  · rw [same]
    exact refl _
  · exact changed _ _ holds

theorem scaled (scaled : world.Scaled) (onScale : ∀ sv next, property sv next → next.OnScale) :
    next.Scaled := by
  intro other
  rcases rescored other with same | ⟨-, -, holds⟩
  · rw [same]
    exact scaled other
  · exact onScale _ _ holds

end Rescored

theorem Skips.trans {middle : World} (first : Skips world middle) (second : Skips middle next) :
    Skips world next := by
  intro party unregistered
  have same := first party unregistered
  rw [second party (same ▸ unregistered), same]

end Updates

section Calls

variable {world next : World} {party seller buyer verifier : Address} {msg : Message}
  {deployment : Deployment} {call : Call}

/-- What a call leaves. -/
structure Scored (world : World) (call : Call) (next : World) : Prop where
  scaled : next.Scaled
  ratesFollow : RatesFollow world call next
  winner : ∀ party ∈ call.winner,
    (world.storage.scores party).reputationScore ≤ (next.storage.scores party).reputationScore

theorem recordSettlement_ok {completedOnTime : Bool} {speedRatio : Nat}
    (settler : msg.sender = world.storage.authorizedSettler) (scaled : world.Scaled)
    (regular : Regular world
      (.recordSettlement seller buyer verifier completedOnTime speedRatio)) :
    ∃ next, recordSettlement msg world seller buyer verifier completedOnTime speedRatio =
        .ok next ∧ Skips world next ∧
      Scored world (.recordSettlement seller buyer verifier completedOnTime speedRatio) next := by
  obtain ⟨roomy, fits⟩ := regular
  obtain ⟨first, ran, sold⟩ := @rescoreRegistered_ok world seller
    (fun sv => sv.settleSeller msg.timestamp completedOnTime speedRatio)
    (fun sv next => sv.Traded next ∧ sv.SameRates next) fun registered =>
      settleSeller_ok (scaled seller)
        (countable_le (roomy seller (by simp)).totalTransactions (Nat.le_succ _)) (fits registered)
  have firstScaled := sold.scaled scaled fun _ _ holds => holds.1.onScale
  have bought : (first.storage.scores buyer).totalTransactions ≤
      (world.storage.scores buyer).totalTransactions + 1 :=
    sold.all (fun sv next => next.totalTransactions ≤ sv.totalTransactions + 1)
      (fun sv => Nat.le_succ _) (fun _ _ holds => holds.1.totalTransactions) buyer
  obtain ⟨second, ranBuyer, paid⟩ := @rescoreRegistered_ok first buyer
    (fun sv => sv.settleBuyer msg.timestamp)
    (fun sv next => sv.Traded next ∧ sv.SameRates next) fun _ =>
      settleBuyer_ok (firstScaled buyer)
        (countable_le (roomy buyer (by simp)).totalTransactions (Nat.succ_le_succ bought))
  have secondScaled := paid.scaled firstScaled fun _ _ holds => holds.1.onScale
  have volume : (second.storage.scores verifier).verificationVolume =
      (world.storage.scores verifier).verificationVolume :=
    (paid.all (fun sv next => next.verificationVolume = sv.verificationVolume)
      (fun _ => rfl) (fun _ _ holds => holds.1.verificationVolume) verifier).trans
    (sold.all (fun sv next => next.verificationVolume = sv.verificationVolume)
      (fun _ => rfl) (fun _ _ holds => holds.1.verificationVolume) verifier)
  obtain ⟨third, ranVerifier, verified⟩ := @rescoreVerifier_ok second verifier msg true
    secondScaled (volume ▸ (roomy verifier (by simp)).verificationVolume)
  refine ⟨third, ?_, (sold.skips.trans paid.skips).trans verified.skips, ?_, ?_, ?_⟩
  · rw [recordSettlement, onlySettler, require_ok settler, ok_bind, ran, ok_bind, ranBuyer, ok_bind,
      ranVerifier]
  · exact verified.scaled secondScaled fun _ _ updated => updated.onScale
  · intro party
    exact ((sold.all SameRates .refl (fun _ _ holds => holds.2) party).trans
      (paid.all SameRates .refl (fun _ _ holds => holds.2) party)).trans
      (verified.all SameRates .refl (fun _ _ updated => updated.same) party)
  · intro party none
    cases none

/-- What the update of the seller makes of a dispute. -/
structure SellerJudged (won wasPenalty : Bool) (sv next : ScoringVector) : Prop where
  traded : sv.Traded next
  disputeRate : InRange sv.disputeRate maxScore next.disputeRate
  disputeWinRate : InRange sv.disputeWinRate (sample won) next.disputeWinRate
  reputationScore : won = true ∧ wasPenalty = false →
    sv.reputationScore ≤ next.reputationScore

theorem recordDisputeResolution_ok {sellerWon wasPenalty : Bool}
    (settler : msg.sender = world.storage.authorizedSettler) (scaled : world.Scaled)
    (regular : Regular world
      (.recordDisputeResolution seller buyer verifier sellerWon wasPenalty)) :
    ∃ next, recordDisputeResolution msg world seller buyer verifier sellerWon wasPenalty =
        .ok next ∧ Skips world next ∧
      Scored world (.recordDisputeResolution seller buyer verifier sellerWon wasPenalty) next := by
  obtain ⟨roomy, spared⟩ := regular
  obtain ⟨first, ran, judged⟩ := @rescoreRegistered_ok world seller
    (fun sv => sv.disputeSeller msg.timestamp sellerWon wasPenalty)
    (SellerJudged sellerWon wasPenalty) fun _ => by
      obtain ⟨next, ran, traded, rate, wins, rises⟩ :=
        @disputeSeller_ok _ msg.timestamp sellerWon wasPenalty (scaled seller)
          (roomy seller (by simp))
      exact ⟨next, ran, traded, rate, wins, rises⟩
  have firstScaled := judged.scaled scaled fun _ _ holds => holds.traded.onScale
  have disputed : (first.storage.scores buyer).totalTransactions ≤
      (world.storage.scores buyer).totalTransactions + 1 :=
    judged.all (fun sv next => next.totalTransactions ≤ sv.totalTransactions + 1)
      (fun sv => Nat.le_succ _) (fun _ _ holds => holds.traded.totalTransactions) buyer
  obtain ⟨second, ranBuyer, answered⟩ := @rescoreRegistered_ok first buyer
    (fun sv => sv.disputeBuyer msg.timestamp !sellerWon)
    (fun sv next => next.verificationVolume = sv.verificationVolume ∧
      sv.Updated next ((!sellerWon) = true)) fun _ =>
      disputeBuyer_ok (firstScaled buyer)
        (countable_le (roomy buyer (by simp)).totalTransactions (Nat.succ_le_succ disputed))
  have secondScaled := answered.scaled firstScaled fun _ _ holds => holds.2.onScale
  have volume : (second.storage.scores verifier).verificationVolume =
      (world.storage.scores verifier).verificationVolume :=
    (answered.all (fun sv next => next.verificationVolume = sv.verificationVolume)
      (fun _ => rfl) (fun _ _ holds => holds.1) verifier).trans
    (judged.all (fun sv next => next.verificationVolume = sv.verificationVolume)
      (fun _ => rfl) (fun _ _ holds => holds.traded.verificationVolume) verifier)
  obtain ⟨third, ranVerifier, verified⟩ := @rescoreVerifier_ok second verifier msg sellerWon
    secondScaled (volume ▸ (roomy verifier (by simp)).verificationVolume)
  have skips := (judged.skips.trans answered.skips).trans verified.skips
  have later : ∀ party, (first.storage.scores party).SameRates (third.storage.scores party) :=
    fun party => (answered.all SameRates .refl (fun _ _ holds => holds.2.same) party).trans
      (verified.all SameRates .refl (fun _ _ updated => updated.same) party)
  have ranges : InRange (world.storage.scores seller).disputeRate maxScore
        (first.storage.scores seller).disputeRate ∧
      InRange (world.storage.scores seller).disputeWinRate (sample sellerWon)
        (first.storage.scores seller).disputeWinRate :=
    judged.all (fun sv next => InRange sv.disputeRate maxScore next.disputeRate ∧
        InRange sv.disputeWinRate (sample sellerWon) next.disputeWinRate)
      (fun sv => ⟨.refl _ _, .refl _ _⟩) (fun _ _ holds => ⟨holds.disputeRate, holds.disputeWinRate⟩) seller
  refine ⟨third, ?_, skips, ?_, ⟨?_, ?_, ?_⟩, ?_⟩
  · rw [recordDisputeResolution, onlySettler, require_ok settler, ok_bind, ran, ok_bind, ranBuyer,
      ok_bind, ranVerifier]
  · exact verified.scaled secondScaled fun _ _ updated => updated.onScale
  · rw [(later seller).disputeRate]
    exact ranges.1
  · rw [(later seller).disputeWinRate]
    exact ranges.2
  · intro party other
    rw [← judged.elsewhere other]
    exact later party
  · intro party wins
    by_cases registered : (world.storage.scores party).lastUpdated = 0
    · rw [skips party registered]
    by_cases worthless : (world.storage.scores party).reputationScore = 0
    · exact worthless ▸ Nat.zero_le _
    have last := verified.all
      (fun sv next => sv.reputationScore ≤ next.reputationScore) (fun _ => le_rfl)
      (fun _ _ updated => updated.reputationScore trivial) party
    refine le_trans ?_ last
    cases sellerWon with
    | true =>
        obtain rfl : seller = party := Option.some.inj wins
        obtain ⟨different, unpenalised⟩ := spared registered worthless
        rw [answered.elsewhere different]
        refine judged.all (fun sv next => sv.reputationScore ≤ next.reputationScore)
          (fun _ => le_rfl) (fun _ _ holds => holds.reputationScore ⟨rfl, ?_⟩) seller
        exact Bool.eq_false_iff.mpr fun penalised => unpenalised ⟨rfl, penalised⟩
    | false =>
        obtain rfl : buyer = party := Option.some.inj wins
        have different : buyer ≠ seller := fun same =>
          (spared (same ▸ registered) (same ▸ worthless)).1 same.symm
        rw [← judged.elsewhere different]
        exact answered.all (fun sv next => sv.reputationScore ≤ next.reputationScore)
          (fun _ => le_rfl) (fun _ _ holds => holds.2.reputationScore rfl) buyer

/-- The update of one vector that keeps its rates. -/
theorem scored_of_rescored (scaled : world.Scaled) (unwon : call.winner = none)
    (rescored : Rescored (fun sv next => next.OnScale ∧ sv.SameRates next) party world next)
    (rates : (∀ party, (world.storage.scores party).SameRates (next.storage.scores party)) →
      RatesFollow world call next) : Scored world call next where
  scaled := rescored.scaled scaled fun _ _ holds => holds.1
  ratesFollow := rates (rescored.all SameRates .refl fun _ _ holds => holds.2)
  winner := by
    intro party wins
    rw [unwon] at wins
    cases wins

theorem recordVerifierSlashed_ok (scaled : world.Scaled)
    (regular : Regular world (.recordVerifierSlashed verifier))
    (ran : recordVerifierSlashed deployment msg world verifier = .ok next) :
    Skips world next ∧ Scored world (.recordVerifierSlashed verifier) next := by
  rw [recordVerifierSlashed, onlyAdmin, require_bind_eq_ok] at ran
  obtain ⟨sv, changed, rfl⟩ := rescore_eq_ok ran.2
  have rescored := @rescored_setVector world verifier
    (fun sv next => next.OnScale ∧ sv.SameRates next) sv regular
    (slashVerifier_onScale (scaled verifier) changed)
  exact ⟨rescored.skips, scored_of_rescored scaled rfl rescored id⟩

theorem recordBuyerConfirmation_ok {speedRatio : Nat}
    (settler : msg.sender = world.storage.authorizedSettler) (scaled : world.Scaled)
    (regular : Regular world (.recordBuyerConfirmation buyer speedRatio)) :
    ∃ next, recordBuyerConfirmation msg world buyer speedRatio = .ok next ∧ Skips world next ∧
      Scored world (.recordBuyerConfirmation buyer speedRatio) next := by
  obtain ⟨registered, roomy, fits⟩ := regular
  have countable := countable_le roomy.totalTransactions (Nat.le_add_right _ 2)
  obtain ⟨sv, changed, holds⟩ :=
    @confirmBuyer_ok _ msg.timestamp speedRatio (scaled buyer) countable fits
  have rescored := @rescored_setVector world buyer
    (fun sv next => next.OnScale ∧ sv.SameRates next) sv registered holds
  refine ⟨_, ?_, rescored.skips, scored_of_rescored scaled rfl rescored id⟩
  rw [recordBuyerConfirmation, onlySettler, require_ok settler, ok_bind]
  exact rescore_ok changed

theorem registerParty_ok {pType : PartyType} (scaled : world.Scaled)
    (ran : registerParty deployment msg world party pType = .ok next) :
    msg.sender = deployment.admin ∧ party ≠ 0 ∧
      (∀ other, other ≠ party → next.storage.scores other = world.storage.scores other) ∧
      Scored world (.registerParty party pType) next := by
  simp only [registerParty, onlyAdmin, require_bind_eq_ok, Except.ok.injEq] at ran
  obtain ⟨admin, nonzero, rfl⟩ := ran
  refine ⟨admin, nonzero, fun other different => update_of_ne different _ _, ?_, trivial, ?_⟩
  · intro other
    change (update world.storage.scores party (freshVector msg.timestamp) other).OnScale
    by_cases same : other = party
    · subst same
      rw [update_self]
      exact freshVector_onScale _
    · rw [update_of_ne same]
      exact scaled other
  · intro other wins
    cases wins

/-- The calls that only the settler can make. -/
def Call.OfSettler : Call → Prop
  | .recordSettlement .. | .recordDisputeResolution .. | .recordBuyerConfirmation .. => True
  | _ => False

/-- A regular call of the settler goes through. -/
theorem settler_ok (ofSettler : call.OfSettler)
    (settler : msg.sender = world.storage.authorizedSettler) (scaled : world.Scaled)
    (regular : Regular world call) :
    ∃ next, dispatch deployment msg world call = .ok next ∧ Skips world next ∧
      Scored world call next := by
  cases call with
  | setAuthorizedSettler => exact ofSettler.elim
  | registerParty => exact ofSettler.elim
  | recordVerifierSlashed => exact ofSettler.elim
  | recordSettlement => exact recordSettlement_ok settler scaled regular
  | recordDisputeResolution => exact recordDisputeResolution_ok settler scaled regular
  | recordBuyerConfirmation => exact recordBuyerConfirmation_ok settler scaled regular

/-- Nobody else makes such a call. -/
theorem settler_of_ok (ofSettler : call.OfSettler)
    (ran : dispatch deployment msg world call = .ok next) :
    msg.sender = world.storage.authorizedSettler := by
  cases call with
  | setAuthorizedSettler => exact ofSettler.elim
  | registerParty => exact ofSettler.elim
  | recordVerifierSlashed => exact ofSettler.elim
  | recordSettlement =>
      simp only [dispatch, recordSettlement, onlySettler, require_bind_eq_ok] at ran
      exact ran.1
  | recordDisputeResolution =>
      simp only [dispatch, recordDisputeResolution, onlySettler, require_bind_eq_ok] at ran
      exact ran.1
  | recordBuyerConfirmation =>
      simp only [dispatch, recordBuyerConfirmation, onlySettler, require_bind_eq_ok] at ran
      exact ran.1

/-- An action registers a party. -/
def Registers (deployment : Deployment) (action : Message × Call) (party : Address) : Prop :=
  action.1.sender = deployment.admin ∧ party ≠ 0 ∧ ∃ pType, action.2 = .registerParty party pType

/-- What a regular call leaves. -/
theorem dispatch_scored (scaled : world.Scaled) (regular : Regular world call)
    (ran : dispatch deployment msg world call = .ok next) :
    Scored world call next ∧ ∀ party, (world.storage.scores party).lastUpdated = 0 →
      ¬Registers deployment (msg, call) party →
        next.storage.scores party = world.storage.scores party := by
  by_cases ofSettler : call.OfSettler
  · obtain ⟨after, again, skips, scored⟩ := @settler_ok world msg deployment call ofSettler
      (settler_of_ok ofSettler ran) scaled regular
    obtain rfl := Except.ok.inj (ran.symm.trans again)
    exact ⟨scored, fun party blank _ => skips party blank⟩
  · cases call with
    | setAuthorizedSettler settler =>
        simp only [dispatch, setAuthorizedSettler, onlyAdmin, require_bind_eq_ok,
          Except.ok.injEq] at ran
        obtain ⟨-, rfl⟩ := ran
        refine ⟨⟨scaled, fun _ => .refl _, fun _ wins => ?_⟩, fun _ _ _ => rfl⟩
        cases wins
    | registerParty subject pType =>
        obtain ⟨admin, nonzero, elsewhere, scored⟩ := registerParty_ok scaled ran
        refine ⟨scored, fun party _ unregistered => elsewhere party fun same => ?_⟩
        subst same
        exact unregistered ⟨admin, nonzero, pType, rfl⟩
    | recordVerifierSlashed verifier =>
        obtain ⟨skips, scored⟩ := recordVerifierSlashed_ok scaled regular ran
        exact ⟨scored, fun party blank _ => skips party blank⟩
    | recordSettlement => exact (ofSettler trivial).elim
    | recordDisputeResolution => exact (ofSettler trivial).elim
    | recordBuyerConfirmation => exact (ofSettler trivial).elim

end Calls

section Runs

variable {deployment : Deployment} {start finish : World} {actions : List (Message × Call)}

/-- The engine with regular calls only. -/
abbrev regularSystem (deployment : Deployment) : TransitionSystem World (Message × Call) :=
  (system deployment).restrict fun world action => Regular world action.2

theorem run_scaled (initial : (system deployment).Init start)
    (run : (regularSystem deployment).Run start actions finish) :
    finish.Scaled ∧ ∀ party, (∀ action ∈ actions, ¬Registers deployment action party) →
      finish.storage.scores party = {} := by
  induction run with
  | nil =>
      rw [show start = {} from initial]
      refine ⟨fun party => ?_, fun _ _ => rfl⟩
      constructor <;> exact Nat.zero_le _
  | @snoc _ middle _ action _ step ih =>
      obtain ⟨scaled, blank⟩ := ih
      have ran := toOption_eq_some.mp step.1
      obtain ⟨scored, kept⟩ := dispatch_scored scaled step.2 ran
      refine ⟨scored.scaled, fun party never => ?_⟩
      have before := blank party fun earlier member => never earlier (List.mem_append_left _ member)
      have last := never action (List.mem_append_right _ (List.mem_singleton_self _))
      rw [kept party (by rw [before]) last, before]

/-- After regular calls every score is on the scale and a party without registration has none. A
further regular call of the settler does not overflow; the winner of a dispute keeps its
reputation, and the rates of disputes stay between what they were and the new samples. -/
theorem run_on_scale (initial : (system deployment).Init start)
    (run : (regularSystem deployment).Run start actions finish) :
    finish.Scaled ∧
    (∀ party, (∀ action ∈ actions, ¬Registers deployment action party) →
      finish.storage.scores party = {}) ∧
    ∀ msg call, Regular finish call →
      (call.OfSettler → dispatch deployment msg finish call ≠ .error .panic) ∧
      ∀ next, dispatch deployment msg finish call = .ok next → Scored finish call next := by
  obtain ⟨scaled, blank⟩ := run_scaled initial run
  refine ⟨scaled, blank, fun msg call regular => ⟨?_, ?_⟩⟩
  · intro ofSettler overflows
    by_cases settler : msg.sender = finish.storage.authorizedSettler
    · obtain ⟨next, ran, -⟩ := @settler_ok finish msg deployment call ofSettler settler scaled regular
      rw [ran] at overflows
      cases overflows
    · have refused : dispatch deployment msg finish call = .error .unauthorized := by
        cases call with
        | setAuthorizedSettler => exact ofSettler.elim
        | registerParty => exact ofSettler.elim
        | recordVerifierSlashed => exact ofSettler.elim
        | recordSettlement =>
            rw [dispatch, recordSettlement, onlySettler, require, if_neg settler, error_bind]
        | recordDisputeResolution =>
            rw [dispatch, recordDisputeResolution, onlySettler, require, if_neg settler, error_bind]
        | recordBuyerConfirmation =>
            rw [dispatch, recordBuyerConfirmation, onlySettler, require, if_neg settler, error_bind]
      rw [refused] at overflows
      cases overflows
  · intro next ran
    exact (dispatch_scored scaled regular ran).1

end Runs

namespace Demo

def deployment : Deployment := ⟨1, fun same => Nat.one_ne_zero (congrArg BitVec.toNat same)⟩

def settler : Message := ⟨2, 200⟩
def seller : Address := 3
def buyer : Address := 4

def deployed : Scene (perform deployment) {} := ⟨[], rfl⟩

/-- The administrator names the settler. -/
def named : Scene (perform deployment) {} :=
  deployed.next (⟨1, 100⟩, .setAuthorizedSettler 2) (by decide +kernel)

/-- It registers the seller. -/
def appointed : Scene (perform deployment) {} :=
  named.next (⟨1, 100⟩, .registerParty seller .supplier) (by decide +kernel)

/-- A settlement with the largest ratio. -/
def settlement : Call := .recordSettlement seller buyer 0 true (2 ^ 256 - 1)

def settled : Scene (perform deployment) {} :=
  appointed.next (settler, settlement) (by decide +kernel)

/-- A buyer that nobody has registered confirms. -/
def confirmed : Scene (perform deployment) {} :=
  appointed.next (settler, .recordBuyerConfirmation buyer 10000) (by decide +kernel)

/-- The seller wins a dispute and is penalised. -/
def penalised : Scene (perform deployment) {} :=
  appointed.next (settler, .recordDisputeResolution seller buyer 0 true true) (by decide +kernel)

theorem run (scene : Scene (perform deployment) {}) :
    (system deployment).Run {} scene.actions scene.world :=
  scene.run fun _ _ _ performed => performed

/-- The seller is registered, and nothing else has happened. -/
theorem appointed_regular :
    (regularSystem deployment).Run {} appointed.actions appointed.world := by
  have nothing : (regularSystem deployment).Run {} deployed.actions deployed.world := .nil
  have first : (regularSystem deployment).Run {} named.actions named.world :=
    nothing.snoc ⟨deployed.performed _ _, trivial⟩
  exact first.snoc ⟨named.performed _ _, trivial⟩

/-- The error with which a call reverts. -/
def refusal : Except Error World → Option Error
  | .error error => some error
  | .ok _ => none

theorem of_refusal {outcome : Except Error World} {error : Error}
    (refused : refusal outcome = some error) : outcome = .error error := by
  cases outcome with
  | error other => exact congrArg Except.error (Option.some.inj refused)
  | ok world => cases refused

/-- Nobody registers the buyer. -/
theorem unregistered : ∀ action ∈ confirmed.actions, ¬Registers deployment action buyer := by
  rintro action member ⟨-, -, pType, registers⟩
  have listed : action ∈ [(⟨1, 100⟩, .setAuthorizedSettler 2),
      (⟨1, 100⟩, .registerParty seller .supplier),
      (settler, .recordBuyerConfirmation buyer 10000)] := member
  simp only [List.mem_cons, List.not_mem_nil, or_false] at listed
  rcases listed with rfl | rfl | rfl
  · cases registers
  · exact absurd (Call.registerParty.inj registers).1 (by decide)
  · cases registers

end Demo

/-- A ratio above the scale is stored and makes the next settlement overflow, a buyer without
registration gets scores, and a seller loses reputation in a dispute that it has won. -/
theorem not_on_scale :
    (system Demo.deployment).Init {} ∧
    (system Demo.deployment).Run {} Demo.settled.actions Demo.settled.world ∧
    maxScore < (Demo.settled.world.storage.scores Demo.seller).avgCompletionSpeed ∧
    dispatch Demo.deployment Demo.settler Demo.settled.world Demo.settlement = .error .panic ∧
    (system Demo.deployment).Run {} Demo.confirmed.actions Demo.confirmed.world ∧
    (∀ action ∈ Demo.confirmed.actions, ¬Registers Demo.deployment action Demo.buyer) ∧
    Demo.confirmed.world.storage.scores Demo.buyer ≠ {} ∧
    (system Demo.deployment).Run {} Demo.penalised.actions Demo.penalised.world ∧
    (Demo.penalised.world.storage.scores Demo.seller).reputationScore <
      (Demo.appointed.world.storage.scores Demo.seller).reputationScore := by
  exact ⟨rfl, Demo.run _, by decide +kernel, Demo.of_refusal (by decide +kernel), Demo.run _,
    Demo.unregistered, by decide +kernel, Demo.run _, by decide +kernel⟩

theorem run_on_scale_appointed :
    (Demo.appointed.world.storage.scores Demo.buyer) = {} ∧
      dispatch Demo.deployment Demo.settler Demo.appointed.world
        (.recordSettlement Demo.seller Demo.buyer 0 true 9000) ≠ .error .panic := by
  have held := run_on_scale (show (system Demo.deployment).Init {} from rfl) Demo.appointed_regular
  have regular : Regular Demo.appointed.world
      (.recordSettlement Demo.seller Demo.buyer 0 true 9000) := by
    refine ⟨fun party member => ?_, fun _ => by decide +kernel⟩
    simp only [List.mem_cons, List.not_mem_nil, or_false] at member
    rcases member with rfl | rfl | rfl
    · exact ⟨by decide +kernel, by decide +kernel, by decide +kernel⟩
    · exact ⟨by decide +kernel, by decide +kernel, by decide +kernel⟩
    · exact ⟨by decide +kernel, by decide +kernel, by decide +kernel⟩
  refine ⟨held.2.1 _ fun action member => ?_, (held.2.2 _ _ regular).1 trivial⟩
  exact Demo.unregistered action (List.mem_append_left _ member)

end TrustChain.Scoring
