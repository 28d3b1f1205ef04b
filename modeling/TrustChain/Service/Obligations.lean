import TrustChain.Service.OneVoucher
import TrustChain.Service.Reservations

/-!
# Reservations are live obligations

What a buyer has reserved or disputed is what its accepted vouchers stand for, in the runs in
which a settlement is resolved for exactly the amount of its voucher. A settlement that fails
gives nothing back, so a buyer whose settlements are over has its credits free only if none of
them has failed on an accepted voucher.
-/

namespace TrustChain.Service

open Library

/-- A settlement is created on a voucher. -/
def Action.OnVoucher (action : Action) : Prop := ∀ body ∈ action.creates, body.voucherId ≠ none

/-- A settlement is resolved while its voucher is accepted and for exactly its amount, and
fails only if its voucher is not accepted or another settlement under way names it. -/
def Action.Discharges (world : World) (action : Action) : Prop :=
  (∀ taskId ∈ action.resolves world, ∀ row ∈ world.db.settlements.get taskId,
    ∀ voucherId ∈ row.voucherId, ∃ voucher ∈ world.db.vouchers.get voucherId,
      voucher.status = .accepted ∧ voucher.billCreditAmount = row.escrowAmount) ∧
  ∀ taskId ∈ action.fails, ∀ row ∈ world.db.settlements.get taskId,
    ∀ voucherId ∈ row.voucherId,
      (∃ voucher ∈ world.db.vouchers.get voucherId, voucher.status = .accepted) →
        ∃ entry ∈ world.db.settlements.rows, entry.1 ≠ taskId ∧
          entry.2.voucherId = some voucherId ∧ ¬entry.2.status.Terminal

/-- Every settlement names a voucher; the accepted vouchers are what is held; and an accepted
voucher that a settlement names is named by one under way. -/
structure Core.Discharged (core : Core) : Prop where
  named : core.settlements.Every fun _ row => ∃ voucherId, row.voucherId = some voucherId
  slack : ∀ buyer, core.slack buyer = 0
  pursued : core.settlements.Every fun _ row => ∀ voucherId voucher,
    row.voucherId = some voucherId → core.vouchers.get voucherId = some voucher →
    voucher.status = .accepted →
    ∃ taskId live, core.settlements.get taskId = some live ∧
      live.voucherId = some voucherId ∧ ¬live.status.Terminal

/-! ## Every request -/

section Effects

variable {world : World} {request : Request} {call : Call} {core : Core}

/-- A voucher that is accepted after a request and named before it was accepted before it. -/
theorem Effect.accepted_before (effect : Effect world.db call core) (sound : world.db.core.Sound)
    {taskId : TaskId} {row : SettlementState} {voucherId : VoucherId} {voucher : Voucher}
    (there : world.db.settlements.get taskId = some row) (names : row.voucherId = some voucherId)
    (found : core.vouchers.get voucherId = some voucher) (accepted : voucher.status = .accepted) :
    ∃ old, world.db.vouchers.get voucherId = some old ∧ old.status = .accepted := by
  obtain ⟨old, was, -, used | idle⟩ := sound.linked taskId row there voucherId names
  · have kept := effect.keeps_used was used
    obtain rfl := Option.some.inj (found.symm.trans kept)
    cases accepted.symm.trans used
  · exact ⟨old, was, idle.1⟩

/-- An accepted voucher that a settlement under way names keeps one that does. -/
theorem Effect.pursued (effect : Effect world.db call core)
    (discharges : (Action.request request call).Discharges world) {taskId : TaskId}
    {live : SettlementState} {voucherId : VoucherId} {old voucher : Voucher}
    (there : world.db.settlements.get taskId = some live) (alive : ¬live.status.Terminal)
    (names : live.voucherId = some voucherId)
    (was : world.db.vouchers.get voucherId = some old) (wasAccepted : old.status = .accepted)
    (found : core.vouchers.get voucherId = some voucher) (accepted : voucher.status = .accepted) :
    ∃ taskId live, core.settlements.get taskId = some live ∧
      live.voucherId = some voucherId ∧ ¬live.status.Terminal := by
  rcases effect.fate there alive with ⟨next, stored, same, still⟩ | rfl | ⟨-, vouchers⟩
  · exact ⟨taskId, next, stored, same.voucherId.trans names, still⟩
  · obtain ⟨entry, inside, different, alsoNames, alsoAlive⟩ :=
      discharges.2 taskId rfl live there voucherId names ⟨old, was, wasAccepted⟩
    rcases effect.fate (Table.mem_rows_iff.mp inside) alsoAlive with
      ⟨next, stored, same, still⟩ | fails | ⟨resolving, -⟩
    · exact ⟨entry.1, next, stored, same.voucherId.trans alsoNames, still⟩
    · cases fails
      exact absurd rfl different
    · cases resolving
  · -- the resolution has used the voucher
    rw [vouchers, useVoucher_get, was, Option.map_some, if_pos ⟨names, wasAccepted⟩] at found
    obtain rfl := Option.some.inj found
    cases accepted

theorem Effect.discharged (effect : Effect world.db call core) (sound : world.db.core.Sound)
    (before : world.db.core.Discharged) (onVoucher : (Action.request request call).OnVoucher)
    (discharges : (Action.request request call).Discharges world) : core.Discharged := by
  obtain ⟨resolves, fails⟩ := discharges
  refine ⟨effect.named before.named fun body called => onVoucher body (called ▸ rfl),
    fun buyer => ?_, ?_⟩
  · have backed : ∀ taskId ∈ call.resolves world.db, ∀ row ∈ world.db.settlements.get taskId,
        ¬row.status.Terminal → ∃ voucherId ∈ row.voucherId,
          ∃ voucher ∈ world.db.vouchers.get voucherId, voucher.status = .accepted := by
      intro taskId resolving row there _
      obtain ⟨voucherId, names⟩ := before.named taskId row there
      obtain ⟨voucher, found, accepted, -⟩ := resolves taskId resolving row there voucherId names
      exact ⟨voucherId, names, voucher, found, accepted⟩
    rcases effect.slack sound backed buyer with same |
      ⟨taskId, row, voucherId, voucher, resolving, there, names, found, -, changed⟩
    · exact same.trans (before.slack buyer)
    · obtain ⟨other, again, -, whole⟩ := resolves taskId resolving row there voucherId names
      obtain rfl := Option.some.inj (found.symm.trans again)
      rw [changed, before.slack buyer, whole, sub_self, ite_self, add_zero]
  · intro taskId row there voucherId voucher names found accepted
    have pursues {old : SettlementState} (there : world.db.settlements.get taskId = some old)
        (names : old.voucherId = some voucherId) :
        ∃ taskId live, core.settlements.get taskId = some live ∧
          live.voucherId = some voucherId ∧ ¬live.status.Terminal := by
      obtain ⟨prior, was, wasAccepted⟩ := effect.accepted_before sound there names found accepted
      obtain ⟨other, live, stored, alsoNames, alive⟩ :=
        before.pursued taskId old there voucherId prior names was wasAccepted
      exact effect.pursued ⟨resolves, fails⟩ stored alive alsoNames was wasAccepted found accepted
    cases effect.origin there with
    | kept there => exact pursues there names
    | moved old there _ same => exact pursues there (same.voucherId.symm.trans names)
    | created body _ _ _ _ _ _ draft => exact ⟨taskId, row, there, names, by rw [draft]; decide⟩

theorem discharged_empty : ({} : Db).core.Discharged where
  named := Table.every_empty _
  slack buyer := by
    simp [Core.slack, Core.credits, Core.acceptedCredits, Capacity.held, Db.core]
  pursued := Table.every_empty _

end Effects

/-! ## Releasing what is available -/

section Release

variable {request : Request} {db : Db} {identityId : IdentityId}

/-- With nothing reserved or disputed, all that is available can be released. -/
theorem releaseUnused_passes (sound : db.core.Sound)
    (identity : requireLedgerIdentity request identityId = .ok ())
    (free : (db.credits identityId).held = 0)
    (available : 0 < (db.credits identityId).availableCredits) :
    ∃ next, releaseUnused request db identityId (db.credits identityId).availableCredits =
      .ok next := by
  have balanced := sound.balanced
  have anchored := auditCapacityAnchor_passes balanced
  cases there : db.capacity.get identityId with
  | none =>
      rw [Db.credits, there] at available
      exact absurd available (lt_irrefl 0)
  | some cap =>
      have row : db.credits identityId = cap := credits_of_get there
      rw [row] at free available ⊢
      have adds := balanced identityId cap there
      have enough : cap.availableCredits ≤ cap.availableCredits + epsilon :=
        le_add_of_nonneg_right epsilon_nonneg
      have idle : cap.responsibilityCredits ≤ epsilon := by
        rw [Capacity.responsibilityCredits, adds.inProgress, adds.confirmed, adds.pending]
        have held : cap.reservedCredits + cap.disputedCredits = 0 := free
        linarith [epsilon_nonneg]
      have releasable : assertCanReleaseLockedFunds cap cap.availableCredits = .ok () := by
        rw [assertCanReleaseLockedFunds, require_ok available, ok_bind, require_ok enough, ok_bind,
          require_ok idle]
      have allowed : assertRuntimeOperationAllowed request .releaseUnusedCapacity = .ok () :=
        require_ok rfl
      rw [releaseUnused, amountRequest, require_ok available, ok_bind, identity, ok_bind, allowed,
        ok_bind, anchored, ok_bind, there]
      simp only [releasable, ok_bind]
      exact ⟨_, storeCapacity_passes (adds.release enough) balanced⟩

end Release

/-! ## Every run -/

section Runs

variable {config : Config} {start finish : World} {actions : List Action}

/-- The service in which settlements are created on vouchers and discharge them. -/
abbrev dischargingSystem (config : Config) : TransitionSystem World Action :=
  (system config).restrict fun world action => action.OnVoucher ∧ action.Discharges world

theorem run_discharged (initial : (system config).Init start)
    (run : (dischargingSystem config).Run start actions finish) : finish.db.core.Discharged := by
  refine run_core Core.Discharged discharged_empty ?_ run initial
  intro world request call core reachable _ before admitted effect
  exact effect.discharged (reachable_sound reachable) before admitted.1 admitted.2

end Runs

/-! ## Scenes -/

instance (action : Action) : Decidable action.OnVoucher :=
  inferInstanceAs (Decidable (∀ body ∈ action.creates, body.voucherId ≠ none))

instance (world : World) (action : Action) : Decidable (action.Discharges world) :=
  inferInstanceAs (Decidable ((∀ taskId ∈ action.resolves world,
    ∀ row ∈ world.db.settlements.get taskId, ∀ voucherId ∈ row.voucherId,
      ∃ voucher ∈ world.db.vouchers.get voucherId,
        voucher.status = .accepted ∧ voucher.billCreditAmount = row.escrowAmount) ∧
    ∀ taskId ∈ action.fails, ∀ row ∈ world.db.settlements.get taskId,
      ∀ voucherId ∈ row.voucherId,
        (∃ voucher ∈ world.db.vouchers.get voucherId, voucher.status = .accepted) →
          ∃ entry ∈ world.db.settlements.rows, entry.1 ≠ taskId ∧
            entry.2.voucherId = some voucherId ∧ ¬entry.2.status.Terminal))

namespace Demo

/-- A settlement is regretted, which refunds its escrow. -/
def refunded : Scene (performIf (fun world action =>
    action.OnVoucher ∧ action.Discharges world) {}) {} where
  actions := call (.lockUsdc buyer 100) :: pledge "v" 10 ++ hire "t" (some "v") 10 ++
    [call (.regretSettlement "t" none)]
  possible := by decide +kernel

/-- A settlement fails, and its escrow stays reserved. -/
def stranded : Scene (perform {}) {} where
  actions := call (.lockUsdc buyer 100) :: pledge "v" 10 ++ hire "t" (some "v") 10 ++
    [call (.failSettlement "t")]
  possible := by decide +kernel

end Demo

end TrustChain.Service
