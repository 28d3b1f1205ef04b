import TrustChain.Service.Books

/-!
# One voucher, one settlement

A settlement can be created on an accepted voucher although another one relies on it. In the
runs in which that does not happen a voucher pays for one settlement.
-/

namespace TrustChain.Service

open Library

/-- A settlement on the voucher has been resolved. -/
def Db.Paid (db : Db) (taskId : TaskId) (voucherId : VoucherId) : Prop :=
  ∃ row ∈ db.settlements.get taskId, row.voucherId = some voucherId ∧ row.status.Resolved

/-- A settlement on the voucher is not over. -/
def Db.ReliesOn (db : Db) (taskId : TaskId) (voucherId : VoucherId) : Prop :=
  ∃ row ∈ db.settlements.get taskId, row.voucherId = some voucherId ∧ ¬row.status.Terminal

/-- A settlement is created on a voucher that no settlement under way names. -/
def Action.Unshared (world : World) (action : Action) : Prop :=
  ∀ body ∈ action.creates, ∀ voucherId ∈ body.voucherId,
    ∀ entry ∈ world.db.settlements.rows, entry.2.voucherId = some voucherId →
      entry.2.status.Terminal

/-- At most one settlement on a voucher has not been cancelled. -/
def Core.OneEach (core : Core) : Prop :=
  ∀ voucherId first second one other, core.settlements.get first = some one →
    core.settlements.get second = some other → one.voucherId = some voucherId →
    other.voucherId = some voucherId → one.status ≠ .cancelled → other.status ≠ .cancelled →
    first = second

/-- A settlement on the voucher has not been cancelled. -/
def Core.Holds (core : Core) (voucherId : VoucherId) (taskId : TaskId) : Prop :=
  ∃ row, core.settlements.get taskId = some row ∧ row.voucherId = some voucherId ∧
    row.status ≠ .cancelled

section Effects

variable {world : World} {request : Request} {call : Call} {core : Core}

/-- A settlement on a voucher that a new one names has been cancelled. -/
theorem cancelled_of_created {body : CreateSettlementRequest} {voucherId : VoucherId}
    {voucher : Voucher} (sound : world.db.core.Sound)
    (unshared : (Action.request request (.createSettlement body)).Unshared world)
    (named : body.voucherId = some voucherId)
    (bound : boundVoucher world.db body voucherId = .ok voucher) {taskId : TaskId}
    {row : SettlementState} (there : world.db.settlements.get taskId = some row)
    (names : row.voucherId = some voucherId) : row.status = .cancelled := by
  have terminal : row.status.Terminal :=
    unshared body rfl voucherId named (taskId, row) (Table.mem_rows_iff.mpr there) names
  obtain ⟨found, accepted, -⟩ := boundVoucher_ok bound
  obtain ⟨linked, again, -, status⟩ := sound.linked taskId row there voucherId names
  obtain rfl := Option.some.inj (found.symm.trans again)
  rcases status with used | ⟨-, unresolved⟩
  · rw [accepted] at used
    cases used
  · rcases terminal with settled | refunded | cancelled
    · exact absurd (.inl settled) unresolved
    · exact absurd (.inr refunded) unresolved
    · exact cancelled

theorem Effect.oneEach (effect : Effect world.db call core) (sound : world.db.core.Sound)
    (unshared : (Action.request request call).Unshared world) (before : world.db.core.OneEach) :
    core.OneEach := by
  intro voucherId first second one other there also names alsoNames held alsoHeld
  have origin : ∀ taskId, core.Holds voucherId taskId → world.db.core.Holds voucherId taskId ∨
      (∃ body, call = .createSettlement body ∧ taskId = body.taskId) ∧
        ∀ other, ¬world.db.core.Holds voucherId other := by
    rintro taskId ⟨row, there, names, held⟩
    rcases effect.namer there names with
      ⟨old, was, named, same⟩ | ⟨body, voucher, rfl, here, named, bound⟩
    · refine .inl ⟨old, was, named, fun cancelled => ?_⟩
      rcases same with rfl | live
      · exact held cancelled
      · exact live (.inr (.inr cancelled))
    · refine .inr ⟨⟨body, rfl, here⟩, ?_⟩
      rintro other ⟨row, there, names, held⟩
      exact held (cancelled_of_created sound unshared named bound there names)
  refine unique_holder ?_ origin ⟨one, there, names, held⟩ ⟨other, also, alsoNames, alsoHeld⟩
  rintro first second ⟨one, there, names, held⟩ ⟨other, also, alsoNames, alsoHeld⟩
  exact before voucherId first second one other there also names alsoNames held alsoHeld

end Effects

/-! ## Every run -/

section Runs

variable {config : Config} {start middle finish : World} {actions : List Action}

/-- The service in which settlements under way share no voucher. -/
abbrev unsharedSystem (config : Config) : TransitionSystem World Action :=
  (system config).restrict fun world action => action.Unshared world

theorem run_oneEach (initial : (system config).Init start)
    (run : (unsharedSystem config).Run start actions finish) : finish.db.core.OneEach := by
  refine run_core Core.OneEach (fun _ _ _ _ _ none => nomatch none) ?_ run initial
  intro world request call core reachable _ before unshared effect
  exact effect.oneEach (reachable_sound reachable) unshared before

/-- What a voucher has paid for stays paid. -/
theorem run_paid {taskId : TaskId} {voucherId : VoucherId}
    (reachable : (system config).Reachable middle)
    (run : (unsharedSystem config).Run middle actions finish)
    (paid : middle.db.Paid taskId voucherId) : finish.db.Paid taskId voucherId := by
  obtain ⟨row, there, names, resolved⟩ := paid
  have kept : finish.db.settlements.get taskId = some row := by
    refine run.preserves_restricted (fun world action next reachable there step _ => ?_) reachable there
    exact step_core (fun core => core.settlements.get taskId = some row)
      (reachable_wellFormed reachable) there
      (fun request call core _ effect => effect.keeps_terminal there resolved.terminal) step
  exact ⟨row, kept, names, resolved⟩

theorem visited_paid {taskId : TaskId} {voucherId : VoucherId}
    (initial : (system config).Init start)
    (visited : (unsharedSystem config).Visits start actions finish fun world =>
      world.db.Paid taskId voucherId) : finish.db.Paid taskId voucherId := by
  obtain ⟨before, after, middle, rfl, first, second, paid⟩ := visited
  exact run_paid ⟨start, before, initial, first.of_restrict⟩ second paid

theorem one_settlement_per_voucher (initial : (system config).Init start)
    (run : (unsharedSystem config).Run start actions finish) :
    (∀ voucherId first second,
      (unsharedSystem config).Visits start actions finish (fun world =>
        world.db.Paid first voucherId) →
      (unsharedSystem config).Visits start actions finish (fun world =>
        world.db.Paid second voucherId) → first = second) ∧
    (∀ voucherId first second, finish.db.ReliesOn first voucherId →
      finish.db.ReliesOn second voucherId → first = second) ∧
    ∀ voucherId voucher, finish.db.vouchers.get voucherId = some voucher →
      (voucher.status = .used ↔ ∃ taskId, finish.db.Paid taskId voucherId) := by
  have oneEach := run_oneEach initial run
  have sound := reachable_sound ⟨start, actions, initial, run.of_restrict⟩
  refine ⟨?_, ?_, ?_⟩
  · intro voucherId first second visited also
    obtain ⟨one, there, names, resolved⟩ := visited_paid initial visited
    obtain ⟨other, alsoThere, alsoNames, alsoResolved⟩ := visited_paid initial also
    exact oneEach voucherId first second one other there alsoThere names alsoNames
      resolved.not_cancelled alsoResolved.not_cancelled
  · rintro voucherId first second ⟨one, there, names, live⟩ ⟨other, also, alsoNames, alsoLive⟩
    exact oneEach voucherId first second one other there also names alsoNames
      (fun cancelled => live (.inr (.inr cancelled)))
      (fun cancelled => alsoLive (.inr (.inr cancelled)))
  · intro voucherId voucher there
    constructor
    · exact sound.spent voucherId voucher there
    · rintro ⟨taskId, row, stored, names, resolved⟩
      obtain ⟨linked, again, -, used | accepted⟩ := sound.linked taskId row stored voucherId names
      · exact Option.some.inj (there.symm.trans again) ▸ used
      · exact absurd resolved accepted.2

end Runs

/-! ## Scenes -/

instance (world : World) : DecidablePred (Action.Unshared world) := fun action =>
  inferInstanceAs (Decidable (∀ body ∈ action.creates, ∀ voucherId ∈ body.voucherId,
    ∀ entry ∈ world.db.settlements.rows, entry.2.voucherId = some voucherId →
      entry.2.status.Terminal))

instance (db : Db) (taskId : TaskId) (voucherId : VoucherId) :
    Decidable (db.Paid taskId voucherId) :=
  inferInstanceAs (Decidable (∃ row ∈ db.settlements.get taskId, _ ∧ _))

namespace Demo

/-- A settlement is cancelled, and another one is created on its voucher and settled. -/
def renewed : Scene (performIf (fun world action => action.Unshared world) {}) {} where
  actions := call (.lockUsdc buyer 100) :: pledge "v" 10 ++ hire "t" (some "v") 10 ++
    [call (.failSettlement "t")] ++ hire "u" (some "v") 10 ++ [call (.regretSettlement "u" none)]
  possible := by decide +kernel

/-- Two settlements under way rely on one voucher, and both are settled. The second one takes
what was reserved for another voucher. -/
def shared : Scene (perform {}) {} where
  actions := call (.lockUsdc buyer 100) :: pledge "v" 10 ++ pledge "w" 10 ++
    hire "t" (some "v") 10 ++ hire "u" (some "v") 10 ++
    [call (.regretSettlement "t" none), call (.regretSettlement "u" none)]
  possible := by decide +kernel

end Demo

theorem one_settlement_per_voucher_renewed :
    Demo.renewed.world.db.Paid "u" "v" ∧ ¬Demo.renewed.world.db.Paid "t" "v" := by
  have run := scene_run_restricted Demo.renewed
  have paid : Demo.renewed.world.db.Paid "u" "v" := by decide +kernel
  refine ⟨paid, fun also => ?_⟩
  have same := (one_settlement_per_voucher (init_empty {}) run).1 "v" "t" "u"
    (.last run also) (.last run paid)
  revert same
  decide

theorem not_one_settlement_per_voucher :
    (system {}).Run {} Demo.shared.actions Demo.shared.world ∧
      Demo.shared.world.db.Paid "t" "v" ∧ Demo.shared.world.db.Paid "u" "v" :=
  ⟨scene_run Demo.shared, by decide +kernel, by decide +kernel⟩

end TrustChain.Service
