import TrustChain.Service.Effects

/-!
# Conservation of money

A resolution debits the escrow and credits what it settles and refunds. The two are the same
amount if the escrow is one that the split leaves whole.
-/

namespace TrustChain.Service

open Library

/-! ## Exact splits -/

section Splits

variable {whole : Prop} {escrowAmount settled refunded percent : ℚ}

theorem percentSplit_exact (bounds : Percentage percent) (nonneg : 0 ≤ escrowAmount)
    (grid : cents escrowAmount = escrowAmount) :
    0 ≤ (percentSplit escrowAmount percent).1 ∧ 0 ≤ (percentSplit escrowAmount percent).2 ∧
      (percentSplit escrowAmount percent).1 + (percentSplit escrowAmount percent).2 =
        escrowAmount := by
  obtain ⟨lower, upper⟩ := bounds
  have share : escrowAmount * percent / 100 ≤ escrowAmount := by nlinarith
  have settled : cents (escrowAmount * percent / 100) ≤ escrowAmount :=
    (roundTo_mono share).trans_eq grid
  have rest : cents (escrowAmount - cents (escrowAmount * percent / 100)) =
      escrowAmount - cents (escrowAmount * percent / 100) :=
    roundTo_sub grid roundTo_roundTo
  refine ⟨roundTo_nonneg (by positivity), ?_, ?_⟩
  · exact roundTo_nonneg (sub_nonneg.mpr settled)
  · rw [percentSplit, rest, add_sub_cancel]

/-- A split pays out exactly what it takes if the escrow is not negative and is not rounded. -/
theorem Split.exact_iff (split : Split whole escrowAmount settled refunded) :
    (0 ≤ settled ∧ 0 ≤ refunded ∧ settled + refunded = escrowAmount) ↔
      0 ≤ escrowAmount ∧ (whole ∨ cents escrowAmount = escrowAmount) := by
  cases split with
  | whole is => simp [is]
  | share percent rounds bounds =>
      constructor
      · rintro ⟨settled, refunded, sum⟩
        have rest : cents (escrowAmount - (percentSplit escrowAmount percent).1) =
            escrowAmount - (percentSplit escrowAmount percent).1 :=
          eq_sub_of_add_eq' sum
        exact ⟨sum ▸ add_nonneg settled refunded, .inr (roundTo_of_sub roundTo_roundTo rest)⟩
      · rintro ⟨nonneg, is | grid⟩
        · exact absurd is rounds
        · exact percentSplit_exact bounds nonneg grid
  | rounded rounds =>
      constructor
      · rintro ⟨settled, -, sum⟩
        rw [add_zero] at sum
        exact ⟨sum ▸ settled, .inr sum⟩
      · rintro ⟨nonneg, is | grid⟩
        · exact absurd is rounds
        · exact ⟨roundTo_nonneg nonneg, le_rfl, by rw [add_zero, grid]⟩

end Splits

/-! ## What an identity has locked -/

/-- What has been locked, burned and released. -/
def Capacity.accounted (cap : Capacity) : ℚ :=
  cap.totalLockedUsdc + cap.burnedCredits + cap.releasedCredits

def Call.deposit (identityId : IdentityId) : Call → ℚ
  | .lockUsdc locked amount => if locked = identityId then amount else 0
  | _ => 0

def Action.deposit (identityId : IdentityId) : Action → ℚ
  | .request _ call => call.deposit identityId
  | .setPauses _ => 0

/-- All amounts that an identity locks in a run. -/
def deposited (identityId : IdentityId) (actions : List Action) : ℚ :=
  (actions.map (Action.deposit identityId)).sum

/-- A resolution pays out exactly what it takes. -/
def Resolution.Exact (resolution : Resolution) : Prop :=
  0 ≤ resolution.settledAmount ∧ 0 ≤ resolution.refundedAmount ∧
    resolution.settledAmount + resolution.refundedAmount = resolution.escrowAmount

/-- A resolution takes an escrow that is not negative and, unless it goes to the seller as it
is, has no fraction of a cent. -/
def Action.Exact (world : World) : Action → Prop
  | .request _ call => ∀ taskId ∈ call.resolves world.db,
      ∀ row ∈ world.db.settlements.get taskId,
        0 ≤ row.escrowAmount ∧ (call.releasesWhole = true ∨ cents row.escrowAmount = row.escrowAmount)
  | .setPauses _ => True

/-- How the row of an identity changes when it locks `deposit`. -/
structure Capacity.Pays (before after : Capacity) (deposit : ℚ) : Prop where
  accounted : after.accounted = before.accounted + deposit
  burned : before.burnedCredits ≤ after.burnedCredits
  released : before.releasedCredits ≤ after.releasedCredits

namespace Capacity.Pays

variable {before after : Capacity} {amount : ℚ}

theorem refl (cap : Capacity) : cap.Pays cap 0 := ⟨(add_zero _).symm, le_rfl, le_rfl⟩

theorem lock (cap : Capacity) (amount : ℚ) : cap.Pays (cap.lock amount) amount :=
  ⟨by simp only [Capacity.accounted, Capacity.lock]; ring, le_rfl, le_rfl⟩

theorem release (cap : Capacity) (nonneg : 0 ≤ amount) : cap.Pays (cap.release amount) 0 :=
  ⟨by simp only [Capacity.accounted, Capacity.release]; ring, le_rfl, le_add_of_nonneg_right nonneg⟩

theorem reserve (cap : Capacity) (amount : ℚ) : cap.Pays (cap.reserve amount) 0 :=
  ⟨(add_zero _).symm, le_rfl, le_rfl⟩

theorem freeze (cap : Capacity) (amount : ℚ) : cap.Pays (cap.freeze amount) 0 :=
  ⟨(add_zero _).symm, le_rfl, le_rfl⟩

/-- What leaves the locked funds in a resolution is burned or released. -/
theorem resolve {cap taken : Capacity} {resolution : Resolution}
    (took : cap.takeEscrow resolution.escrowAmount = .ok taken) (exact_ : resolution.Exact) :
    cap.Pays (taken.resolve resolution.escrowAmount resolution.settledAmount
      resolution.refundedAmount) 0 := by
  obtain ⟨settled, refunded, sum⟩ := exact_
  have same : taken.accounted = cap.accounted ∧ taken.burnedCredits = cap.burnedCredits ∧
      taken.releasedCredits = cap.releasedCredits := by
    rcases takeEscrow_ok took with ⟨-, rfl⟩ | ⟨-, rfl⟩ <;> exact ⟨rfl, rfl, rfl⟩
  refine ⟨?_, ?_, ?_⟩
  · rw [← same.1, ← sum]
    simp only [Capacity.accounted, Capacity.resolve]
    ring
  · exact same.2.1 ▸ le_add_of_nonneg_right settled
  · exact same.2.2 ▸ le_add_of_nonneg_right refunded

/-- An identity that locks nothing is not credited with anything. -/
theorem locked_le (pays : before.Pays after amount) :
    after.totalLockedUsdc ≤ before.totalLockedUsdc + amount := by
  have sum := pays.accounted
  have burned := pays.burned
  have released := pays.released
  simp only [Capacity.accounted] at sum
  linarith

end Capacity.Pays

/-! ## Every request -/

section Effects

variable {db : Db} {call : Call} {core : Core}

theorem Call.deposit_eq_zero (other : ¬call.IsLock) (identityId : IdentityId) :
    call.deposit identityId = 0 := by
  cases call with
  | lockUsdc => exact absurd trivial other
  | _ => rfl

/-- Only the row of `owner` changes, and it pays. -/
theorem pays_set {owner : IdentityId} {cap after : Capacity}
    (there : db.capacity.get owner = some cap) (pays : cap.Pays after 0) (identityId : IdentityId) :
    (db.credits identityId).Pays (((db.capacity.set owner after).get identityId).getD {}) 0 := by
  rw [credits_set]
  split
  case isTrue same => rwa [same, credits_of_get there]
  case isFalse => exact .refl _

theorem Effect.pays (effect : Effect db call core)
    (exact_ : ∀ taskId ∈ call.resolves db, ∀ row ∈ db.settlements.get taskId,
      0 ≤ row.escrowAmount ∧ (call.releasesWhole = true ∨ cents row.escrowAmount = row.escrowAmount))
    (identityId : IdentityId) :
    (db.credits identityId).Pays (core.credits identityId) (call.deposit identityId) := by
  cases effect with
  | locked owner amount =>
      rw [Core.credits, credits_set, Call.deposit]
      by_cases same : identityId = owner
      · rw [if_pos same, if_pos same.symm, same]
        exact .lock (db.credits owner) amount
      · rw [if_neg same, if_neg (Ne.symm same)]
        exact .refl _
  | released owner amount cap there positive =>
      exact pays_set there (.release cap positive.le) identityId
  | voucherAccepted _ _ row cap other _ _ funded =>
      rw [Call.deposit_eq_zero other]
      exact pays_set funded (.reserve cap row.billCreditAmount) identityId
  | disputed _ _ row _ cap other _ _ _ _ funded =>
      rw [Call.deposit_eq_zero other]
      exact pays_set funded (.freeze cap row.escrowAmount) identityId
  | resolved _ taskId row next settled refunded capacity there resolving _ _ _ split taken =>
      rw [Call.deposit_eq_zero (Call.not_isLock_of_resolves resolving)]
      obtain ⟨-, rfl⟩ | ⟨cap, after, funded, took, rfl⟩ := taken
      · exact .refl _
      · exact pays_set funded (.resolve took
          (split.exact_iff.mpr (exact_ taskId resolving row there))) identityId
  | quiet _ other | voucherRejected _ _ _ other | moved _ _ _ _ other | arbitrated _ _ _ _ other =>
      rw [Call.deposit_eq_zero other]
      exact .refl _
  | _ => exact .refl _

theorem Effect.resolutions_exact (effect : Effect db call core)
    (exact_ : ∀ taskId ∈ call.resolves db, ∀ row ∈ db.settlements.get taskId,
      0 ≤ row.escrowAmount ∧ (call.releasesWhole = true ∨ cents row.escrowAmount = row.escrowAmount))
    (before : ∀ resolution ∈ db.resolutions, resolution.Exact) :
    ∀ resolution ∈ core.resolutions, resolution.Exact := by
  cases effect with
  | resolved _ taskId row _ _ _ _ there resolving _ _ _ split _ =>
      intro resolution listed
      rcases List.mem_append.mp listed with old | new
      · exact before resolution old
      · obtain rfl := List.mem_singleton.mp new
        exact split.exact_iff.mpr (exact_ taskId resolving row there)
  | _ => exact before

end Effects

/-! ## Every run -/

section Runs

variable {config : Config} {world next start finish : World} {action : Action}
  {actions : List Action}

theorem step_pays (wellFormed : world.db.WellFormed)
    (step : ((system config).restrict fun world action => action.Exact world).Step world action next)
    (identityId : IdentityId) :
    (world.db.credits identityId).Pays (next.db.credits identityId) (action.deposit identityId) := by
  obtain ⟨step, exact_⟩ := step
  cases action with
  | request request call =>
      obtain ⟨db, ran, rfl⟩ := step_request.mp step
      exact (dispatch_effect wellFormed ran).1.pays exact_ identityId
  | setPauses pauses =>
      obtain rfl := Option.some.inj step
      exact .refl _

theorem run_accounted (initial : (system config).Init start)
    (run : ((system config).restrict fun world action => action.Exact world).Run start actions
      finish) (identityId : IdentityId) :
    (finish.db.credits identityId).accounted = deposited identityId actions := by
  induction run with
  | nil =>
      have empty : start.db = {} := initial
      rw [empty]
      simp [Db.credits, Capacity.accounted, deposited]
  | snoc earlier step ih =>
      have wellFormed := reachable_wellFormed ⟨start, _, initial, earlier.of_restrict⟩
      rw [(step_pays wellFormed step identityId).accounted, ih, deposited, deposited,
        List.map_append, List.sum_append]
      simp

theorem run_resolutions_exact (initial : (system config).Init start)
    (run : ((system config).restrict fun world action => action.Exact world).Run start actions
      finish) : ∀ resolution ∈ finish.db.resolutions, resolution.Exact := by
  refine run_core (fun core => ∀ resolution ∈ core.resolutions, resolution.Exact) nofun ?_ run
    initial
  intro world request call core _ _ before exact_ effect
  exact effect.resolutions_exact exact_ before

theorem Action.exists_lock {identityId : IdentityId} (deposits : 0 < action.deposit identityId) :
    ∃ request amount, action = .request request (.lockUsdc identityId amount) := by
  cases action with
  | setPauses pauses => exact absurd deposits (lt_irrefl 0)
  | request request call =>
      cases call with
      | lockUsdc owner amount =>
          simp only [deposit, Call.deposit] at deposits
          split at deposits
          case isTrue same => exact ⟨request, amount, by rw [same]⟩
          case isFalse => exact absurd deposits (lt_irrefl 0)
      | _ => exact absurd deposits (lt_irrefl 0)

theorem money_conserved (initial : (system config).Init start)
    (run : ((system config).restrict fun world action => action.Exact world).Run start actions
      finish) :
    (∀ identityId, (finish.db.credits identityId).totalLockedUsdc +
      (finish.db.credits identityId).burnedCredits + (finish.db.credits identityId).releasedCredits =
        deposited identityId actions) ∧
    (∀ resolution ∈ finish.db.resolutions, resolution.Exact) ∧
    ∀ action next,
      ((system config).restrict fun world action => action.Exact world).Step finish action next →
      ∀ identityId,
        (finish.db.credits identityId).burnedCredits ≤ (next.db.credits identityId).burnedCredits ∧
        (finish.db.credits identityId).releasedCredits ≤
          (next.db.credits identityId).releasedCredits ∧
        ((finish.db.credits identityId).totalLockedUsdc <
            (next.db.credits identityId).totalLockedUsdc →
          ∃ request amount, action = .request request (.lockUsdc identityId amount)) := by
  refine ⟨run_accounted initial run, run_resolutions_exact initial run, ?_⟩
  intro action next step identityId
  have pays := step_pays (reachable_wellFormed ⟨start, actions, initial, run.of_restrict⟩) step
    identityId
  refine ⟨pays.burned, pays.released, fun more => Action.exists_lock ?_⟩
  have atMost := pays.locked_le
  linarith

end Runs

/-! ## Scenes -/

instance (world : World) : DecidablePred (Action.Exact world)
  | .request _ call => inferInstanceAs (Decidable (∀ taskId ∈ call.resolves world.db,
      ∀ row ∈ world.db.settlements.get taskId, 0 ≤ row.escrowAmount ∧
        (call.releasesWhole = true ∨ cents row.escrowAmount = row.escrowAmount)))
  | .setPauses _ => inferInstanceAs (Decidable True)

namespace Demo

/-- A delivered task of which three tenths are settled. -/
def partlySettled : Scene (performIf (fun world action => action.Exact world) {}) {} where
  actions := call (.lockUsdc buyer 100) :: pledge "v" 10 ++ hire "t" (some "v") 10 ++
    [call (.submitSettlement "t"), call (.storeReceipt "t" .success),
      call (.partialSettlement "t" 30)]
  possible := by decide +kernel

/-- Half a cent of the escrow is debited and credited to nobody. -/
def halfCent : Scene (perform {}) {} where
  actions := call (.lockUsdc buyer 100) :: pledge "v" (10005 / 1000) ++
    hire "t" (some "v") (10005 / 1000) ++ [call (.regretSettlement "t" none)]
  possible := by decide +kernel

/-- Without a voucher an escrow can be negative, and is then added to the locked funds. -/
def negative : Scene (perform {}) {} where
  actions := call (.lockUsdc buyer 100) :: hire "t" none (-50) ++
    [call (.regretSettlement "t" none)]
  possible := by decide +kernel

end Demo

theorem money_conserved_partlySettled :
    Demo.partlySettled.world.db.resolutions = [⟨Demo.buyer, 10, 3, 7⟩] ∧
      (Demo.partlySettled.world.db.credits Demo.buyer).totalLockedUsdc +
        (Demo.partlySettled.world.db.credits Demo.buyer).burnedCredits +
        (Demo.partlySettled.world.db.credits Demo.buyer).releasedCredits =
          deposited Demo.buyer Demo.partlySettled.actions :=
  ⟨by decide +kernel,
    (money_conserved (init_empty {}) (scene_run_restricted Demo.partlySettled)).1 Demo.buyer⟩

/-- Conservation fails for an escrow with a fraction of a cent, and for a negative one. -/
theorem not_money_conserved :
    ((system {}).Run {} Demo.halfCent.actions Demo.halfCent.world ∧
      (Demo.halfCent.world.db.credits Demo.buyer).totalLockedUsdc +
        (Demo.halfCent.world.db.credits Demo.buyer).burnedCredits +
        (Demo.halfCent.world.db.credits Demo.buyer).releasedCredits ≠
          deposited Demo.buyer Demo.halfCent.actions) ∧
    (system {}).Run {} Demo.negative.actions Demo.negative.world ∧
      deposited Demo.buyer Demo.negative.actions <
        (Demo.negative.world.db.credits Demo.buyer).totalLockedUsdc ∧
      ¬∀ resolution ∈ Demo.negative.world.db.resolutions, resolution.Exact := by
  refine ⟨⟨scene_run Demo.halfCent, by decide +kernel⟩, scene_run Demo.negative,
    by decide +kernel, ?_⟩
  intro exact_
  have paid : Demo.negative.world.db.resolutions = [⟨Demo.buyer, -50, 0, -50⟩] := by
    decide +kernel
  have refunded := (exact_ _ (paid ▸ List.mem_singleton_self _)).2.1
  norm_num at refunded

end TrustChain.Service
