import TrustChain.ReputationAnchor.Anchor

/-!
# Scores and weights over runs

The total weight is what the parties have, a slash freezes a party for the whole window, and the
score of a party that was never slashed does not fall. What is anchored mints its weight once
along exactly the runs that never anchor again, outside the window, a score for dividends that is
already there.
-/

namespace TrustChain.ReputationAnchor

open Library Function

/-- The party was slashed at a time. -/
def SlashedAt (actions : List (Message × Call)) (party : Address) (time : Nat) : Prop :=
  ∃ sender newScoreE2 kind, (⟨sender, time⟩, .slash party newScoreE2 kind) ∈ actions

/-- What a call anchors is already packed for its party. -/
def Packed.Holds (p : Packed) (scoreE2 successCount : Nat) (evidenceHash : Bytes32) : Prop :=
  p.packed = true ∧ p.scoreE2 = scoreE2 ∧ p.successCount = successCount ∧
    p.evidenceHash = evidenceHash

/-- A call that anchors what is already packed mints weight. -/
def Remints (world : World) (action : Message × Call) (next : World) : Prop :=
  ∃ party scoreE2 successCount evidenceHash,
    action.2 = .pack party scoreE2 successCount evidenceHash ∧
    (world.storage.packedOf party).Holds scoreE2 successCount evidenceHash ∧
    (next.storage.packedOf party).rewardWeight ≠ (world.storage.packedOf party).rewardWeight

/-- What is already packed is anchored again only below the score for dividends, or while the
party is rehabilitating. -/
def Repacks (world : World) (action : Message × Call) : Prop :=
  match action.2 with
  | .pack party scoreE2 successCount evidenceHash =>
      (world.storage.packedOf party).Holds scoreE2 successCount evidenceHash →
        scoreE2 < dividendMinScoreE2 ∨
          (world.storage.packedOf party).Rehabilitating action.1.timestamp
  | _ => True

/-- The total is what everybody has. -/
def Storage.Adds (storage : Storage) : Prop :=
  ∀ parties : Finset Address, (∀ party ∉ parties, (storage.packedOf party).rewardWeight = 0) →
    storage.totalRewardWeight = ∑ party ∈ parties, (storage.packedOf party).rewardWeight

section Steps

variable {deployment : Deployment} {msg : Message} {world next : World} {call : Call}
  {storage : Storage} {scores : Address → Packed} {total : Nat} {party : Address}

theorem minted_pos_iff {p : Packed} {timestamp scoreE2 : Nat} :
    p.minted timestamp scoreE2 ≠ 0 ↔
      dividendMinScoreE2 ≤ scoreE2 ∧ ¬p.Rehabilitating timestamp := by
  rw [Packed.minted]
  constructor
  · intro mints
    by_contra otherwise
    exact mints (if_neg otherwise)
  · intro earned
    rw [if_pos earned]
    have enough : 30000 ≤ scoreE2 := earned.1
    omega

namespace Effect

variable (effect : Effect msg storage call scores total)

include effect

/-- What a call leaves of one party. -/
theorem record (party : Address) :
    ((∀ newScoreE2 kind, call ≠ .slash party newScoreE2 kind) ∧
      scores party = storage.packedOf party) ∨
    (∃ scoreE2 successCount evidenceHash, call = .pack party scoreE2 successCount evidenceHash ∧
      ((storage.packedOf party).packed = true → (storage.packedOf party).lastSlashAt = 0 →
        (storage.packedOf party).scoreE2 ≤ scoreE2) ∧
      scores party =
        (storage.packedOf party).anchor msg.timestamp scoreE2 successCount evidenceHash) ∨
    ∃ newScoreE2 kind, call = .slash party newScoreE2 kind ∧
      (storage.packedOf party).packed = true ∧ msg.timestamp + rehabWindow < wordSize ∧
      scores party = (storage.packedOf party).slash msg.timestamp newScoreE2 kind := by
  cases effect with
  | appointed => exact .inl ⟨fun _ _ => Call.noConfusion, rfl⟩
  | packed subject scoreE2 successCount evidenceHash newer =>
      by_cases same : party = subject
      · subst same
        exact .inr (.inl ⟨scoreE2, successCount, evidenceHash, rfl, newer, update_self _ _ _⟩)
      · exact .inl ⟨fun _ _ => Call.noConfusion, update_of_ne same _ _⟩
  | slashed subject newScoreE2 kind already fits =>
      by_cases same : party = subject
      · subst same
        exact .inr (.inr ⟨newScoreE2, kind, rfl, already, fits, update_self _ _ _⟩)
      · refine .inl ⟨fun _ _ slashed => ?_, update_of_ne same _ _⟩
        exact same (Call.slash.inj slashed).1.symm

/-- The weight of a party grows by what the call mints. -/
theorem rewardWeight (party : Address) :
    (scores party).rewardWeight = (storage.packedOf party).rewardWeight ∨
      ∃ scoreE2 successCount evidenceHash,
        call = .pack party scoreE2 successCount evidenceHash ∧
        (scores party).rewardWeight = (storage.packedOf party).rewardWeight +
          (storage.packedOf party).minted msg.timestamp scoreE2 := by
  rcases effect.record party with
    ⟨-, same⟩ | ⟨scoreE2, successCount, evidenceHash, packs, -, written⟩ |
      ⟨_, _, -, -, -, written⟩
  · exact .inl (by rw [same])
  · exact .inr ⟨scoreE2, successCount, evidenceHash, packs, by rw [written]; rfl⟩
  · exact .inl (by rw [written]; rfl)

/-- A score that is anchored does not fall, as long as its party was never slashed. -/
theorem scoreE2
    (blank : (storage.packedOf party).packed = false → (storage.packedOf party).scoreE2 = 0)
    (unslashed : (storage.packedOf party).lastSlashAt = 0)
    (spared : ∀ newScoreE2 kind, call ≠ .slash party newScoreE2 kind) :
    (storage.packedOf party).scoreE2 ≤ (scores party).scoreE2 := by
  rcases effect.record party with
    ⟨-, same⟩ | ⟨_, _, _, -, newer, written⟩ | ⟨newScoreE2, kind, slashes, -⟩
  · rw [same]
  · rw [written]
    cases already : (storage.packedOf party).packed with
    | false => exact blank already ▸ Nat.zero_le _
    | true => exact newer already unslashed
  · exact absurd slashes (spared newScoreE2 kind)

/-- When a party was last slashed. -/
theorem lastSlashAt (party : Address) :
    (scores party).lastSlashAt = (storage.packedOf party).lastSlashAt ∧
        (∀ newScoreE2 kind, call ≠ .slash party newScoreE2 kind) ∨
      (∃ newScoreE2 kind, call = .slash party newScoreE2 kind) ∧
        (scores party).lastSlashAt = msg.timestamp ∧ msg.timestamp + rehabWindow < wordSize := by
  rcases effect.record party with
    ⟨spared, same⟩ | ⟨_, _, _, rfl, -, written⟩ | ⟨newScoreE2, kind, slashes, -, fits, written⟩
  · exact .inl ⟨by rw [same], spared⟩
  · rw [written]
    exact .inl ⟨rfl, fun _ _ => Call.noConfusion⟩
  · rw [written]
    exact .inr ⟨⟨newScoreE2, kind, slashes⟩, rfl, fits⟩

/-- Who is not packed has no score. -/
theorem blank
    (blank : (storage.packedOf party).packed = false → (storage.packedOf party).scoreE2 = 0)
    (unpacked : (scores party).packed = false) : (scores party).scoreE2 = 0 := by
  rcases effect.record party with
    ⟨-, same⟩ | ⟨_, _, _, -, -, written⟩ | ⟨_, _, -, already, -, written⟩
  · rw [same] at unpacked ⊢
    exact blank unpacked
  · rw [written] at unpacked
    cases unpacked
  · rw [written] at unpacked
    exact absurd (already.symm.trans unpacked) Bool.noConfusion

omit effect

theorem adds {after : Storage} (adds : storage.Adds)
    (effect : Effect msg storage call after.packedOf after.totalRewardWeight) : after.Adds := by
  intro parties covers
  generalize after.packedOf = scores, after.totalRewardWeight = total at *
  cases effect with
  | appointed => exact adds parties covers
  | packed subject scoreE2 successCount evidenceHash =>
      have before : ∀ party ∉ parties, (storage.packedOf party).rewardWeight = 0 := by
        intro party outside
        have none := covers party outside
        by_cases same : party = subject
        · subst same
          rw [update_self] at none
          exact (Nat.add_eq_zero_iff.mp none).1
        · rwa [update_of_ne same] at none
      rw [adds parties before]
      by_cases member : subject ∈ parties
      · have moved := sum_update_add member storage.packedOf ((storage.packedOf subject).anchor
          msg.timestamp scoreE2 successCount evidenceHash) Packed.rewardWeight
        rw [Packed.anchor] at moved ⊢
        dsimp only at moved
        omega
      · have none := covers subject member
        rw [update_self] at none
        have unminted : (storage.packedOf subject).minted msg.timestamp scoreE2 = 0 :=
          (Nat.add_eq_zero_iff.mp none).2
        rw [unminted, Nat.add_zero]
        refine Finset.sum_congr rfl fun party inside => ?_
        rw [update_of_ne fun same : party = subject => member (same ▸ inside)]
  | slashed subject newScoreE2 kind =>
      have same : ∀ party, (update storage.packedOf subject ((storage.packedOf subject).slash
          msg.timestamp newScoreE2 kind) party).rewardWeight =
            (storage.packedOf party).rewardWeight := by
        intro party
        by_cases here : party = subject
        · subst here
          rw [update_self]
          rfl
        · rw [update_of_ne here]
      simp only [same] at covers ⊢
      exact adds parties covers

/-- What anchoring mints. -/
theorem mints {scoreE2 successCount : Nat} {evidenceHash : Bytes32}
    (effect : Effect msg storage (.pack party scoreE2 successCount evidenceHash) scores total) :
    (scores party).rewardWeight = (storage.packedOf party).rewardWeight +
      (storage.packedOf party).minted msg.timestamp scoreE2 := by
  cases effect with
  | packed =>
      rw [update_self]
      rfl

end Effect

/-- A call mints again exactly where it anchors again a score for dividends, outside the
window. -/
theorem repacks_iff {action : Message × Call}
    (step : (system deployment).Step world action next) :
    Repacks world action ↔ ¬Remints world action next := by
  obtain ⟨msg, call⟩ := action
  have effect : Effect msg world.storage call next.storage.packedOf
      next.storage.totalRewardWeight := (step_effect step).2.2
  constructor
  · rintro once ⟨party, scoreE2, successCount, evidenceHash, rfl, holds, mints⟩
    rw [effect.mints] at mints
    have minted : (world.storage.packedOf party).minted msg.timestamp scoreE2 ≠ 0 :=
      fun none => mints (none ▸ Nat.add_zero _)
    obtain ⟨enough, thawed⟩ := minted_pos_iff.mp minted
    rcases once holds with low | frozen
    · exact absurd enough (Nat.not_le_of_lt low)
    · exact thawed frozen
  · intro never
    cases call with
    | setPacker => trivial
    | slash => trivial
    | pack party scoreE2 successCount evidenceHash =>
        intro holds
        by_contra otherwise
        rw [not_or, Nat.not_lt] at otherwise
        refine never ⟨party, scoreE2, successCount, evidenceHash, rfl, holds, ?_⟩
        rw [effect.mints]
        have minted : (world.storage.packedOf party).minted msg.timestamp scoreE2 ≠ 0 :=
          minted_pos_iff.mpr otherwise
        omega

end Steps

section Runs

variable {deployment : Deployment} {start middle finish next : World} {party : Address}
  {actions before after : List (Message × Call)} {action : Message × Call} {time : Nat}

/-- What a run leaves of each party. -/
structure Told (actions : List (Message × Call)) (world : World) : Prop where
  started : 0 < world.now
  adds : world.storage.Adds
  blank : ∀ party, (world.storage.packedOf party).packed = false →
    (world.storage.packedOf party).scoreE2 = 0
  slashed : ∀ party time, SlashedAt actions party time →
    0 < (world.storage.packedOf party).lastSlashAt ∧
      time ≤ (world.storage.packedOf party).lastSlashAt ∧
      (world.storage.packedOf party).lastSlashAt + rehabWindow < wordSize
  unslashed : ∀ party, (∀ time, ¬SlashedAt actions party time) →
    (world.storage.packedOf party).lastSlashAt = 0
  past : ∀ party, (world.storage.packedOf party).lastSlashAt ≤ world.now

theorem slashedAt_snoc : SlashedAt (actions ++ [action]) party time ↔
    SlashedAt actions party time ∨
      ∃ newScoreE2 kind, action.1.timestamp = time ∧ action.2 = .slash party newScoreE2 kind := by
  constructor
  · rintro ⟨sender, newScoreE2, kind, member⟩
    rcases List.mem_append.mp member with early | last
    · exact .inl ⟨sender, newScoreE2, kind, early⟩
    · rw [← List.mem_singleton.mp last]
      exact .inr ⟨newScoreE2, kind, rfl, rfl⟩
  · rintro (⟨sender, newScoreE2, kind, member⟩ | ⟨newScoreE2, kind, rfl, slashes⟩)
    · exact ⟨sender, newScoreE2, kind, List.mem_append_left _ member⟩
    · refine ⟨action.1.sender, newScoreE2, kind, List.mem_append_right _ ?_⟩
      rw [← slashes]
      exact List.mem_singleton_self _

theorem Told.snoc (told : Told actions middle) (step : (system deployment).Step middle action next) :
    Told (actions ++ [action]) next := by
  obtain ⟨later, now, effect⟩ := step_effect step
  have clock : middle.now ≤ next.now := now ▸ later
  constructor
  · exact told.started.trans_le clock
  · exact effect.adds told.adds
  · intro party
    exact effect.blank (told.blank party)
  · intro party time slashed
    have earlier := told.slashed party
    rcases effect.lastSlashAt party with ⟨same, spared⟩ | ⟨-, at_, fits⟩
    · rw [same]
      refine earlier time ((slashedAt_snoc.mp slashed).resolve_right ?_)
      rintro ⟨newScoreE2, kind, -, slashes⟩
      exact spared newScoreE2 kind slashes
    · rw [at_]
      refine ⟨told.started.trans_le later, ?_, fits⟩
      rcases slashedAt_snoc.mp slashed with before | ⟨_, _, rfl, -⟩
      · exact (earlier time before).2.1.trans ((told.past party).trans later)
      · exact le_rfl
  · intro party never
    rcases effect.lastSlashAt party with ⟨same, -⟩ | ⟨⟨newScoreE2, kind, slashes⟩, -⟩
    · rw [same]
      refine told.unslashed party fun time slashed => ?_
      exact never time (slashedAt_snoc.mpr (.inl slashed))
    · exact absurd (slashedAt_snoc.mpr (.inr ⟨newScoreE2, kind, rfl, slashes⟩)) (never _)
  · intro party
    rcases effect.lastSlashAt party with ⟨same, -⟩ | ⟨-, at_, -⟩
    · rw [same]
      exact (told.past party).trans clock
    · rw [at_, now]

theorem run_told (initial : (system deployment).Init start)
    (run : (system deployment).Run start actions finish) : Told actions finish := by
  induction run with
  | nil =>
      rw [show start = deployed deployment from initial]
      constructor
      · exact deployment.deployedAt_pos
      · intro parties _
        exact Finset.sum_const_zero.symm
      · exact fun _ _ => rfl
      · rintro party time ⟨sender, newScoreE2, kind, member⟩
        exact absurd member List.not_mem_nil
      · exact fun _ _ => rfl
      · exact fun _ => Nat.zero_le _
  | snoc _ step ih => exact ih.snoc step

/-- The score of a party that is never slashed does not fall. -/
theorem run_scoreE2 (initial : (system deployment).Init start)
    (first : (system deployment).Run start before middle)
    (second : (system deployment).Run middle after finish)
    (never : ∀ time, ¬SlashedAt (before ++ after) party time) :
    (middle.storage.packedOf party).scoreE2 ≤ (finish.storage.packedOf party).scoreE2 := by
  induction second with
  | nil => exact le_rfl
  | @snoc earlier _ _ action run step ih =>
      have spared : ∀ time, ¬SlashedAt (before ++ earlier) party time := by
        intro time slashed
        refine never time ?_
        rw [← List.append_assoc]
        exact slashedAt_snoc.mpr (.inl slashed)
      have told := run_told initial (first.append run)
      refine (ih spared).trans ((step_effect step).2.2.scoreE2 (told.blank party)
        (told.unslashed party spared) fun newScoreE2 kind slashes => ?_)
      refine never action.1.timestamp ?_
      rw [← List.append_assoc]
      exact slashedAt_snoc.mpr (.inr ⟨newScoreE2, kind, rfl, slashes⟩)

/-- While the window after a slash is open, its party is not eligible. -/
theorem Told.not_eligible (told : Told actions finish) (slashed : SlashedAt actions party time)
    {now : Nat} (open_ : now < time + rehabWindow) :
    isDividendEligible finish now party = .ok false := by
  obtain ⟨pos, last, fits⟩ := told.slashed party time slashed
  simp only [isDividendEligible]
  split
  · rfl
  · have late : ¬(finish.storage.packedOf party).lastSlashAt + rehabWindow ≤ now := by omega
    rw [if_neg pos.ne', checkedAdd, if_pos fits]
    simp [late]

/-- While the window after a slash is open, its party gets no weight. -/
theorem Told.not_minted (told : Told actions finish) (slashed : SlashedAt actions party time)
    (step : (system deployment).Step finish action next)
    (open_ : action.1.timestamp < time + rehabWindow) :
    (next.storage.packedOf party).rewardWeight =
      (finish.storage.packedOf party).rewardWeight := by
  obtain ⟨pos, last, -⟩ := told.slashed party time slashed
  rcases (step_effect step).2.2.rewardWeight party with same | ⟨scoreE2, _, _, _, grown⟩
  · exact same
  · have frozen : (finish.storage.packedOf party).Rehabilitating action.1.timestamp :=
      ⟨pos.ne', by omega⟩
    have unminted : (finish.storage.packedOf party).minted action.1.timestamp scoreE2 = 0 := by
      by_contra mints
      exact (minted_pos_iff.mp mints).2 frozen
    rw [grown, unminted, Nat.add_zero]

/-- The total weight is the sum over the parties, no weight is minted and nobody is eligible in
the window after a slash, and without a slash no score falls. What is anchored mints once exactly
if a score for dividends is not anchored again outside the window. -/
theorem run_repacks_iff (initial : (system deployment).Init start)
    (first : (system deployment).Run start before middle)
    (second : (system deployment).Run middle after finish) :
    finish.storage.Adds ∧
    (∀ party time, SlashedAt (before ++ after) party time →
      (∀ now, now < time + rehabWindow → isDividendEligible finish now party = .ok false) ∧
      ∀ action next, (system deployment).Step finish action next →
        action.1.timestamp < time + rehabWindow →
          (next.storage.packedOf party).rewardWeight =
            (finish.storage.packedOf party).rewardWeight) ∧
    (∀ party, (∀ time, ¬SlashedAt (before ++ after) party time) →
      (middle.storage.packedOf party).scoreE2 ≤ (finish.storage.packedOf party).scoreE2) ∧
    (((system deployment).restrict Repacks).Run start (before ++ after) finish ↔
      ¬(system deployment).Takes start (before ++ after) finish Remints) := by
  have whole := first.append second
  have told := run_told initial whole
  refine ⟨told.adds, fun party time slashed => ⟨fun now => told.not_eligible slashed, ?_⟩, ?_, ?_⟩
  · intro action next step
    exact told.not_minted slashed step
  · intro party
    exact run_scoreE2 initial first second
  · refine TransitionSystem.Takes.restrict_iff_not (fun _ _ _ _ => step_unique) ?_ (.init initial)
      whole
    intro state action next _ step
    exact repacks_iff step

end Runs

namespace Demo

def deployment : Deployment where
  admin := 1
  deployedAt := 100
  admin_ne_zero := by decide
  deployedAt_pos := by decide

def party : Address := 2

/-- The administrator anchors a score for dividends. -/
def anchoring (timestamp : Nat) : Message × Call := (⟨1, timestamp⟩, .pack party 30000 12 9)

def anchored : Scene (perform deployment) (deployed deployment) where
  actions := [anchoring 200]
  possible := by decide +kernel

/-- It anchors the same once more. -/
def anchoredAgain : Scene (perform deployment) (deployed deployment) :=
  anchored.next (anchoring 260) (by decide +kernel)

/-- It slashes the party. -/
def slashing : Message × Call := (⟨1, 260⟩, .slash party 15000 4)

def slashed : Scene (perform deployment) (deployed deployment) :=
  anchored.next slashing (by decide +kernel)

theorem slashed_at : SlashedAt slashed.actions party 260 :=
  ⟨1, 15000, 4, List.mem_append_right _ (List.mem_singleton_self _)⟩

end Demo

/-- The same score, count and evidence mint three hundred twice. -/
theorem anchored_again_remints :
    (system Demo.deployment).Init (deployed Demo.deployment) ∧
    (system Demo.deployment).Run (deployed Demo.deployment) Demo.anchoredAgain.actions
      Demo.anchoredAgain.world ∧
    (Demo.anchored.world.storage.packedOf Demo.party).rewardWeight = 300 ∧
    (Demo.anchoredAgain.world.storage.packedOf Demo.party).rewardWeight = 600 ∧
    (system Demo.deployment).Takes (deployed Demo.deployment) Demo.anchoredAgain.actions
      Demo.anchoredAgain.world Remints := by
  have anchored : (system Demo.deployment).Run (deployed Demo.deployment) Demo.anchored.actions
      Demo.anchored.world := Demo.anchored.run fun _ _ _ performed => performed
  have again : (system Demo.deployment).Run (deployed Demo.deployment) Demo.anchoredAgain.actions
      Demo.anchoredAgain.world := Demo.anchoredAgain.run fun _ _ _ performed => performed
  refine ⟨rfl, again, by decide +kernel, by decide +kernel, ?_⟩
  refine .last anchored (Demo.anchored.performed _ _) ⟨Demo.party, 30000, 12, 9, rfl, ?_, ?_⟩
  · exact ⟨by decide +kernel, by decide +kernel, by decide +kernel, by decide +kernel⟩
  · decide +kernel

theorem run_repacks_iff_slashed :
    Demo.slashed.world.storage.Adds ∧
      isDividendEligible Demo.slashed.world 300 Demo.party = .ok false := by
  have first : (system Demo.deployment).Run (deployed Demo.deployment) Demo.anchored.actions
      Demo.anchored.world := Demo.anchored.run fun _ _ _ performed => performed
  have second : (system Demo.deployment).Run Demo.anchored.world [Demo.slashing]
      Demo.slashed.world := .single (Demo.anchored.performed _ _)
  have held := run_repacks_iff
    (show (system Demo.deployment).Init (deployed Demo.deployment) from rfl) first second
  exact ⟨held.1, (held.2.1 Demo.party 260 Demo.slashed_at).1 300 (by decide)⟩

end TrustChain.ReputationAnchor
