import TrustChain.Reputation.Pairs

/-!
# Pairs that cannot farm

One settled task after the other, the gains of every window stay below the limit of the pair.
-/

namespace TrustChain.Reputation

open Library Service TransitionSystem

section

variable {settings : WashSettings} {world next start : World} {action : Action}
  {actions : List Action} {taskId : TaskId} {row : Settlement} {loadedAt : ℚ}
  {buyerWallet sellerWallet : Option String}

/-- What is written down when a task settles. -/
def World.entry (settings : WashSettings) (world : World) (taskId : TaskId) (row : Settlement)
    (buyerWallet sellerWallet : Option String) (loadedAt : ℚ) : Settled where
  taskId := taskId
  buyerId := row.clientAgentId
  sellerId := row.workerAgentId
  settledAt := world.clock
  raised := (world.recorded settings taskId row buyerWallet sellerWallet loadedAt).RaisedOver
    (world.row row.workerAgentId)

theorem settled_settle :
    (world.settle settings taskId row buyerWallet sellerWallet loadedAt).settled =
      world.entry settings taskId row buyerWallet sellerWallet loadedAt :: world.settled := rfl

/-- The gains of a window, before and after a task settles. -/
theorem gains_settle (buyerId sellerId : IdentityId) (begin : ℚ) :
    (world.settle settings taskId row buyerWallet sellerWallet loadedAt).gains settings buyerId
        sellerId begin =
      world.gains settings buyerId sellerId begin +
        if (world.entry settings taskId row buyerWallet sellerWallet loadedAt).Of buyerId sellerId ∧
          (world.entry settings taskId row buyerWallet sellerWallet loadedAt).Within settings begin ∧
          (world.entry settings taskId row buyerWallet sellerWallet loadedAt).raised = true
        then 1 else 0 := by
  rw [World.gains, settled_settle, List.countP_cons]
  simp only [World.gains, decide_eq_true_eq]

section Step

variable (sound : world.Sound) (loaded : loadedAt ≤ world.clock)
  (fresh : taskId ∉ world.settled.map Settled.taskId)
  (counted : ∀ entry ∈ world.settled, entry.Of row.clientAgentId row.workerAgentId ∨
    entry.Of row.workerAgentId row.clientAgentId →
      world.clock - settings.pairWindow ≤ entry.settledAt → world.Counted settings entry)

include sound loaded fresh counted

theorem World.Unfarmed.settle (unfarmed : world.Unfarmed settings) :
    (world.settle settings taskId row buyerWallet sellerWallet loadedAt).Unfarmed settings where
  bounded := by
    intro buyerId sellerId begin
    rw [gains_settle]
    split
    case isFalse => exact unfarmed.bounded buyerId sellerId begin
    case isTrue gain =>
      obtain ⟨⟨rfl, rfl⟩, ⟨-, ends⟩, raised⟩ := gain
      obtain ⟨-, room, -⟩ := gain_bounds sound loaded fresh counted (of_decide_eq_true raised)
      have ends : world.clock ≤ begin + settings.pairWindow := ends
      -- what has gained in the window has settled within the window before now
      have earlier : world.gains settings row.clientAgentId row.workerAgentId begin ≤
          world.settled.countP fun entry => entry.Of row.clientAgentId row.workerAgentId ∧
            world.clock - settings.pairWindow ≤ entry.settledAt := by
        refine List.countP_mono_left fun entry _ gains => decide_eq_true ?_
        obtain ⟨of, ⟨begins, -⟩, -⟩ := of_decide_eq_true gains
        exact ⟨of, by linarith⟩
      change world.gains settings row.clientAgentId row.workerAgentId begin + 1 ≤ _
      omega
  unanswered := by
    rw [settled_settle]
    refine List.pairwise_cons.mpr ⟨fun entry inside raised of => ?_, unfarmed.unanswered⟩
    exact (gain_bounds sound loaded fresh counted (of_decide_eq_true raised)).2.2 entry inside of

theorem World.Unmatched.settle (unmatched : world.Unmatched settings)
    (onward : ∀ entry ∈ world.settled, entry.raised = true →
      entry.Of row.workerAgentId row.clientAgentId →
        entry.settledAt < world.clock - settings.pairWindow) :
    (world.settle settings taskId row buyerWallet sellerWallet loadedAt).Unmatched settings := by
  rintro buyerId sellerId begin ⟨entry, inside, of, within⟩
  rw [gains_settle]
  have earlier : world.gains settings buyerId sellerId begin = 0 := by
    rcases List.mem_cons.mp inside with rfl | inside
    · -- the task that settles now turns the pair around
      obtain ⟨rfl, rfl⟩ := of
      refine List.countP_eq_zero.mpr fun other there gains => ?_
      obtain ⟨of, ⟨begins, -⟩, raised⟩ := of_decide_eq_true gains
      have before := onward other there raised of
      have ends : world.clock ≤ begin + settings.pairWindow := within.2
      linarith
    · exact unmatched buyerId sellerId begin ⟨entry, inside, of, within⟩
  rw [earlier, Nat.zero_add, if_neg]
  rintro ⟨⟨rfl, rfl⟩, ⟨-, ends⟩, raised⟩
  obtain ⟨apart, -, turned⟩ := gain_bounds sound loaded fresh counted (of_decide_eq_true raised)
  have ends : world.clock ≤ begin + settings.pairWindow := ends
  rcases List.mem_cons.mp inside with rfl | inside
  · exact apart of.2.symm
  · have before := turned entry inside of
    linarith [within.1]

end Step

theorem World.Unfarmed.step (sound : world.Sound) (unfarmed : world.Unfarmed settings)
    (effect : Effect settings world action next) (kept : action.Kept settings world) :
    next.Unfarmed settings := by
  cases effect with
  | @settled _ row _ _ _ _ _ there success loaded named fresh =>
      have counted := kept row there
      exact unfarmed.settle sound loaded fresh counted
  | other settled clock parties reputation =>
      refine ⟨fun buyerId sellerId begin => ?_, settled ▸ unfarmed.unanswered⟩
      rw [World.gains, settled]
      exact unfarmed.bounded buyerId sellerId begin

theorem World.Unmatched.step (sound : world.Sound) (unmatched : world.Unmatched settings)
    (effect : Effect settings world action next) (kept : action.Kept settings world)
    (onward : action.Onward settings world) : next.Unmatched settings := by
  cases effect with
  | @settled _ row _ _ _ _ _ there success loaded named fresh =>
      have counted := kept row there
      have ahead := onward row there
      exact unmatched.settle sound loaded fresh counted ahead
  | other settled clock parties reputation =>
      intro buyerId sellerId begin traded
      rw [World.gains, settled]
      exact unmatched buyerId sellerId begin (settled ▸ traded)

/-- More trades never speak for a trade, and in every run the rows of reputation are sound. If every
task that settled within the window counts when a task of the same parties settles, a pair gains less
often than its limit, and not after it has traded in the other direction; if none turns around a task
that has gained, it does not gain in a window with a trade in the other direction at all. -/
theorem pairs_cannot_farm (initial : (system settings).Init start)
    (run : (system settings).Run start actions world) :
    (∀ deal now, ∀ history larger : List TradeEdge, history.Subperm larger →
      ((evaluateWashSignals settings deal history now).credit = false →
        (evaluateWashSignals settings deal larger now).credit = false) ∧
      (evaluateWashSignals settings deal history now).flagsDelta ≤
        (evaluateWashSignals settings deal larger now).flagsDelta) ∧
    (world.reputation.Every fun _ row => 0 ≤ row.score ∧ row.score ≤ 1000 ∧
      row.successfulTasks + row.disputedTasks ≤ row.totalTasks) ∧
    (((system settings).restrict fun world action => action.Kept settings world).Run start actions
      world → world.Unfarmed settings) ∧
    (((system settings).restrict fun world action => action.Kept settings world ∧
      action.Onward settings world).Run start actions world → world.Unmatched settings) := by
  have empty : start.settled = [] := initial.1
  have reached := sound_of_reachable ⟨start, actions, initial, run⟩
  refine ⟨fun _ _ _ _ => evaluateWashSignals_mono, ?_, fun kept => ?_, fun kept => ?_⟩
  · exact reached.reputation.mono fun _ row sound => ⟨sound.score.1, sound.score.2, sound.tasks⟩
  · have first : start.Unfarmed settings := by
      constructor <;> simp [empty, World.gains]
    refine kept.preserves_restricted (fun state action next before unfarmed step allowed => ?_)
      (.init initial) first
    exact unfarmed.step (sound_of_reachable before) (perform_effect step) allowed
  · have first : start.Unmatched settings := by
      simp [World.Unmatched, empty]
    refine kept.preserves_restricted (fun state action next before unmatched step allowed => ?_)
      (.init initial) first
    exact unmatched.step (sound_of_reachable before) (perform_effect step) allowed.1 allowed.2

end

namespace Demo

theorem named : norm (some "b") ≠ "" ∧ norm (some "s") ≠ "" := by decide +kernel

theorem turned : norm (some "s") ≠ "" ∧ norm (some "b") ≠ "" := by decide +kernel

/-- An order of a buyer. -/
def order : Settlement :=
  { clientAgentId := "b", workerAgentId := "s", escrowAmount := 20, createdAt := 0, named }

/-- An order of its seller, from the buyer. -/
def counterpart : Settlement :=
  { clientAgentId := "s", workerAgentId := "b", escrowAmount := 20, createdAt := 0,
    named := turned }

def settle (taskId : TaskId) (now : ℚ) : Action := .settle taskId .settled none none none now

/-- Four tasks are created at once, and settle together a day and an hour later. -/
def batch : Scene (perform {}) {} where
  actions := [.create "1" order, .create "2" order, .create "3" order, .create "4" order,
    .wait 90000, settle "1" 90000, settle "2" 90000, settle "3" 90000, settle "4" 90000]
  possible := by decide +kernel

/-- Two tasks in opposite directions settle long after they were created. -/
def circle : Scene (perform {}) {} where
  actions := [.create "1" order, .create "2" counterpart, .wait 90000, settle "2" 90000,
    settle "1" 90000]
  possible := by decide +kernel

def performKept (world : World) (action : Action) : Option World :=
  if action.Kept {} world then perform {} world action else none

theorem restricted_of_performKept (world : World) (action : Action) (next : World)
    (taken : performKept world action = some next) :
    ((system {}).restrict fun world action => action.Kept {} world).Step world action next := by
  unfold performKept at taken
  split at taken
  case isTrue kept => exact ⟨taken, kept⟩
  case isFalse => cases taken

/-- Four tasks settle within the day in which they were created. -/
def daily : Scene performKept {} where
  actions := [.create "1" order, .create "2" order, .create "3" order, .create "4" order,
    .wait 3600, settle "1" 3600, settle "2" 3600, settle "3" 3600, settle "4" 3600]
  possible := by decide +kernel

theorem empty_initial : (system {}).Init {} := ⟨rfl, Table.every_empty _⟩

end Demo

theorem pairs_cannot_farm_daily : Demo.daily.world.Unfarmed {} ∧
    Demo.daily.world.gains {} "b" "s" 0 = 3 := by
  have kept := Demo.daily.run Demo.restricted_of_performKept
  exact ⟨(pairs_cannot_farm Demo.empty_initial kept.of_restrict).2.2.1 kept, by decide +kernel⟩

/-- Tasks that were created before the window gain together, more than three times in a day, and
after a trade in the other direction. -/
theorem not_pairs_cannot_farm :
    ((system {}).Init {} ∧ (system {}).Run {} Demo.batch.actions Demo.batch.world ∧
      ¬Demo.batch.world.gains {} "b" "s" 86400 ≤ ({} : WashSettings).pairMax - 1) ∧
    (system {}).Run {} Demo.circle.actions Demo.circle.world ∧
      ∃ later earlier : Settled, Demo.circle.world.settled = [later, earlier] ∧
        later.raised = true ∧ earlier.Of later.sellerId later.buyerId ∧
        ¬earlier.settledAt < later.settledAt - ({} : WashSettings).pairWindow := by
  refine ⟨⟨Demo.empty_initial, Demo.batch.run fun _ _ _ => id, by decide +kernel⟩,
    Demo.circle.run fun _ _ _ => id, ⟨"1", "b", "s", 90000, true⟩, ⟨"2", "s", "b", 90000, true⟩,
    by decide +kernel, rfl, by decide +kernel, by decide +kernel⟩

end TrustChain.Reputation
