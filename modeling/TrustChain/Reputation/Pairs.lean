import TrustChain.Reputation.Outcomes

/-!
# Farming reputation

Settlements are created, settle at any later time, and are then reported once. The history that a
report is judged by is selected by the times of creation and by the statuses of the moment, while
credit is given when a task settles.
-/

namespace TrustChain.Reputation

open Library Service

/-- A task that has settled and was reported, as an observer writes it down. -/
structure Settled where
  taskId : TaskId
  buyerId : IdentityId
  sellerId : IdentityId
  settledAt : ℚ
  /-- The score or the number of successful tasks of the seller was raised. -/
  raised : Bool
  deriving DecidableEq

structure World where
  settlements : Table TaskId Settlement := .empty
  reputation : Table AgentId ReputationRow := .empty
  clock : ℚ := 0
  /-- Latest first. -/
  settled : List Settled := []

/-- The row of an agent, which is opened where there is none. -/
def World.row (world : World) (agentId : AgentId) : ReputationRow :=
  (world.reputation.get agentId).getD {}

inductive Action where
  | wait (until_ : ℚ)
  | create (taskId : TaskId) (settlement : Settlement)
  /-- A task settles, and its success is reported for its worker. -/
  | settle (taskId : TaskId) (status : TaskStatus) (releasedAmount : Option ℚ)
      (buyerWallet sellerWallet : Option String) (loadedAt : ℚ)
  /-- A settlement is frozen, resumed, refunded and so on. -/
  | setStatus (taskId : TaskId) (status : TaskStatus)
  /-- A task of a worker ends in a dispute or fails. -/
  | workerFails (workerAgentId : AgentId) (disputed : Bool)
  /-- The outcome of a task is reported for its buyer. -/
  | buyerOutcome (buyerAgentId : AgentId) (sellerAgentId : Option AgentId) (report : Report)
      (loadedAt : ℚ)

section System

variable (settings : WashSettings)

/-- The report of a task that settles. -/
def reportOf (taskId : TaskId) (row : Settlement) (buyerWallet sellerWallet : Option String) :
    Report where
  success := true
  volume := row.amount
  buyerAgentId := some row.clientAgentId
  excludeTaskId := some taskId
  buyerWallet := buyerWallet
  sellerWallet := sellerWallet

/-- The row of the worker once the report of a task is recorded. -/
def World.recorded (world : World) (taskId : TaskId) (row : Settlement)
    (buyerWallet sellerWallet : Option String) (loadedAt : ℚ) : ReputationRow :=
  let report := reportOf taskId row buyerWallet sellerWallet
  (world.row row.workerAgentId).recordWorker report
    (inspectSettlementWash settings (world.settlements.set taskId row) row.workerAgentId report
      loadedAt world.clock)

/-- A task settles, is reported, and is written down. -/
def World.settle (world : World) (taskId : TaskId) (row : Settlement)
    (buyerWallet sellerWallet : Option String) (loadedAt : ℚ) : World :=
  let recorded := world.recorded settings taskId row buyerWallet sellerWallet loadedAt
  { world with
    settlements := world.settlements.set taskId row
    reputation := world.reputation.set row.workerAgentId recorded
    settled :=
      { taskId
        buyerId := row.clientAgentId
        sellerId := row.workerAgentId
        settledAt := world.clock
        raised := recorded.RaisedOver (world.row row.workerAgentId) } :: world.settled }

def perform (world : World) : Action → Option World
  | .wait until_ => if world.clock ≤ until_ then some { world with clock := until_ } else none
  | .create taskId settlement =>
      if world.settlements.get taskId = none then
        some { world with
          settlements := world.settlements.set taskId { settlement with createdAt := world.clock } }
      else none
  | .settle taskId status releasedAmount buyerWallet sellerWallet loadedAt =>
      match world.settlements.get taskId with
      | some row =>
          if row.status ∉ successStatuses ∧ status ∈ successStatuses ∧ loadedAt ≤ world.clock ∧
              taskId ≠ "" ∧ taskId ∉ world.settled.map Settled.taskId then
            some (world.settle settings taskId { row with status, releasedAmount } buyerWallet
              sellerWallet loadedAt)
          else none
      | none => none
  | .setStatus taskId status =>
      match world.settlements.get taskId with
      | some row =>
          some { world with settlements := world.settlements.set taskId { row with status } }
      | none => none
  | .workerFails workerAgentId disputed =>
      let report : Report := { success := false, disputed, volume := 0 }
      let recorded := (world.row workerAgentId).recordWorker report ⟨true, 0, []⟩
      some { world with reputation := world.reputation.set workerAgentId recorded }
  | .buyerOutcome buyerAgentId sellerAgentId report loadedAt =>
      if buyerAgentId = "" ∨ sellerAgentId = some buyerAgentId ∨ world.clock < loadedAt then none
      else
        let verdict := evaluateWashSignals settings
          { buyerId := some buyerAgentId, sellerId := sellerAgentId, amount := report.volume }
          (loadRecentEdges settings world.settlements (some buyerAgentId) sellerAgentId
            report.excludeTaskId loadedAt) world.clock
        some { world with
          reputation := world.reputation.set buyerAgentId
            ((world.row buyerAgentId).recordBuyer report verdict) }

/-- Any settlements and any sound reputation, and nothing reported yet. -/
def system : TransitionSystem World Action where
  Init world := world.settled = [] ∧ world.reputation.Every fun _ row => row.Sound
  Step world action next := perform settings world action = some next

end System

/-! ## What a pair can gain

As long as every settlement that a report should see is counted, a pair gains reputation less often
than its limit in any window, and not at all once it has traded in the other direction. A task that
was created before the window it settles in escapes the count.
-/

open TransitionSystem

section

variable {settings : WashSettings} {world next : World} {action : Action}

/-! ## The laws -/

namespace Settled

variable (entry : Settled) (buyerId sellerId : IdentityId)

/-- The task was between the two, in this direction. -/
def Of : Prop := entry.buyerId = buyerId ∧ entry.sellerId = sellerId

instance : Decidable (entry.Of buyerId sellerId) := inferInstanceAs (Decidable (_ ∧ _))

/-- The task settled in a window of the pair that begins at a time. -/
def Within (settings : WashSettings) (begin : ℚ) : Prop :=
  begin ≤ entry.settledAt ∧ entry.settledAt ≤ begin + settings.pairWindow

instance (settings : WashSettings) (begin : ℚ) : Decidable (entry.Within settings begin) :=
  inferInstanceAs (Decidable (_ ∧ _))

end Settled

/-- The settlements of a pair, in a window, that raised the reputation of the seller. -/
def World.gains (world : World) (settings : WashSettings) (buyerId sellerId : IdentityId)
    (begin : ℚ) : Nat :=
  world.settled.countP fun entry =>
    entry.Of buyerId sellerId ∧ entry.Within settings begin ∧ entry.raised = true

/-- No pair gains as often as its limit in a window, nor after it has traded in the other direction
in that window. -/
structure World.Unfarmed (settings : WashSettings) (world : World) : Prop where
  bounded : ∀ buyerId sellerId begin,
    world.gains settings buyerId sellerId begin ≤ settings.pairMax - 1
  unanswered : world.settled.Pairwise fun later earlier => later.raised = true →
    earlier.Of later.sellerId later.buyerId →
      earlier.settledAt < later.settledAt - settings.pairWindow

/-- No pair gains in a window in which it trades in the other direction, before or after. -/
def World.Unmatched (settings : WashSettings) (world : World) : Prop :=
  ∀ buyerId sellerId begin,
    (∃ entry ∈ world.settled, entry.Of sellerId buyerId ∧ entry.Within settings begin) →
      world.gains settings buyerId sellerId begin = 0

/-! ## The conditions -/

/-- The task counts for a report at this time: it was created within the window, and its settlement
still has a status of success. -/
def World.Counted (world : World) (settings : WashSettings) (entry : Settled) : Prop :=
  ∃ row ∈ world.settlements.get entry.taskId, row.status ∈ successStatuses ∧
    world.clock - settings.pairWindow ≤ row.createdAt

instance (world : World) (entry : Settled) : Decidable (world.Counted settings entry) :=
  inferInstanceAs (Decidable (∃ row ∈ world.settlements.get entry.taskId, _))

/-- When a task settles, every task between the same parties that settled within the window counts. -/
def Action.Kept (settings : WashSettings) (world : World) : Action → Prop
  | .settle taskId .. =>
      ∀ row ∈ world.settlements.get taskId, ∀ entry ∈ world.settled,
        entry.Of row.clientAgentId row.workerAgentId ∨
          entry.Of row.workerAgentId row.clientAgentId →
        world.clock - settings.pairWindow ≤ entry.settledAt → world.Counted settings entry
  | _ => True

instance (world : World) (action : Action) : Decidable (action.Kept settings world) :=
  match action with
  | .settle taskId .. =>
      inferInstanceAs (Decidable (∀ row ∈ world.settlements.get taskId, _))
  | .wait _ | .create .. | .setStatus .. | .workerFails .. | .buyerOutcome .. => isTrue trivial

/-- No task settles that turns around one that has gained within the window. -/
def Action.Onward (settings : WashSettings) (world : World) : Action → Prop
  | .settle taskId .. =>
      ∀ row ∈ world.settlements.get taskId, ∀ entry ∈ world.settled, entry.raised = true →
        entry.Of row.workerAgentId row.clientAgentId →
          entry.settledAt < world.clock - settings.pairWindow
  | _ => True

/-! ## What a step does -/

/-- The reputation is that of other agents, or recorded soundly. -/
inductive Effect (settings : WashSettings) (world : World) : Action → World → Prop
  | settled {taskId : TaskId} {row : Settlement} {status : TaskStatus} {released : Option ℚ}
      {buyerWallet sellerWallet : Option String} {loadedAt : ℚ}
      (there : world.settlements.get taskId = some row) (success : status ∈ successStatuses)
      (loaded : loadedAt ≤ world.clock) (named : taskId ≠ "")
      (fresh : taskId ∉ world.settled.map Settled.taskId) :
      Effect settings world (.settle taskId status released buyerWallet sellerWallet loadedAt)
        (world.settle settings taskId { row with status, releasedAmount := released } buyerWallet
          sellerWallet loadedAt)
  | other {action : Action} {next : World} (settled : next.settled = world.settled)
      (clock : world.clock ≤ next.clock)
      (parties : ∀ taskId row, world.settlements.get taskId = some row →
        ∃ row', next.settlements.get taskId = some row' ∧
          row'.clientAgentId = row.clientAgentId ∧ row'.workerAgentId = row.workerAgentId)
      (reputation : (world.reputation.Every fun _ row => row.Sound) →
        next.reputation.Every fun _ row => row.Sound) :
      Effect settings world action next

theorem World.row_sound (sound : world.reputation.Every fun _ row => row.Sound)
    (agentId : AgentId) : (world.row agentId).Sound := by
  unfold World.row
  cases there : world.reputation.get agentId with
  | none => exact ReputationRow.sound_default
  | some row => exact sound _ _ there

/-- Storing a settlement of the same parties, or under a new task. -/
theorem parties_set {taskId : TaskId} {stored : Settlement}
    (same : ∀ row, world.settlements.get taskId = some row →
      stored.clientAgentId = row.clientAgentId ∧ stored.workerAgentId = row.workerAgentId) :
    ∀ other row, world.settlements.get other = some row →
      ∃ row', (world.settlements.set taskId stored).get other = some row' ∧
        row'.clientAgentId = row.clientAgentId ∧ row'.workerAgentId = row.workerAgentId := by
  intro other row there
  rw [Table.get_set]
  split
  case isTrue equal =>
    subst equal
    exact ⟨stored, rfl, same row there⟩
  case isFalse => exact ⟨row, there, rfl, rfl⟩

theorem perform_effect (taken : perform settings world action = some next) :
    Effect settings world action next := by
  have kept : ∀ taskId row, world.settlements.get taskId = some row →
      ∃ row', world.settlements.get taskId = some row' ∧
        row'.clientAgentId = row.clientAgentId ∧ row'.workerAgentId = row.workerAgentId :=
    fun _ row there => ⟨row, there, rfl, rfl⟩
  cases action with
  | wait until_ =>
      simp only [perform] at taken
      split at taken
      case isTrue later =>
        obtain rfl := Option.some.inj taken
        exact .other rfl later kept id
      case isFalse => cases taken
  | create taskId settlement =>
      simp only [perform] at taken
      split at taken
      case isFalse => cases taken
      case isTrue absent =>
        obtain rfl := Option.some.inj taken
        refine .other rfl le_rfl (parties_set fun row there => ?_) id
        rw [absent] at there
        cases there
  | settle taskId status released buyerWallet sellerWallet loadedAt =>
      simp only [perform] at taken
      split at taken
      case h_1 row there =>
        split at taken <;> cases taken
        case isTrue open_ =>
          obtain ⟨-, success, loaded, named, fresh⟩ := open_
          exact .settled there success loaded named fresh
      case h_2 => cases taken
  | setStatus taskId status =>
      simp only [perform] at taken
      split at taken <;> cases taken
      case h_1 row there =>
        refine .other rfl le_rfl (parties_set fun other there' => ?_) id
        obtain rfl := Option.some.inj (there.symm.trans there')
        exact ⟨rfl, rfl⟩
  | workerFails workerAgentId disputed =>
      obtain rfl := Option.some.inj taken
      exact .other rfl le_rfl kept fun sound =>
        sound.set ((World.row_sound sound workerAgentId).recordWorker _ _)
  | buyerOutcome buyerAgentId sellerAgentId report loadedAt =>
      simp only [perform] at taken
      split at taken
      case isTrue => cases taken
      case isFalse =>
        obtain rfl := Option.some.inj taken
        exact .other rfl le_rfl kept fun sound =>
          sound.set ((World.row_sound sound buyerAgentId).recordBuyer _ _)

/-! ## The books of the observer -/

/-- The reputation is sound, every task that settled is written down once, with the parties of its
settlement, and at a time that has passed. -/
structure World.Sound (world : World) : Prop where
  reputation : world.reputation.Every fun _ row => row.Sound
  once : (world.settled.map Settled.taskId).Nodup
  parties : ∀ entry ∈ world.settled, ∃ row, world.settlements.get entry.taskId = some row ∧
    row.clientAgentId = entry.buyerId ∧ row.workerAgentId = entry.sellerId
  past : ∀ entry ∈ world.settled, entry.settledAt ≤ world.clock

theorem World.Sound.step (sound : world.Sound) (effect : Effect settings world action next) :
    next.Sound := by
  cases effect with
  | @settled taskId row status released buyerWallet sellerWallet loadedAt there success loaded named
      fresh =>
      have carried : ∀ other found, world.settlements.get other = some found →
          ∃ found', (world.settlements.set taskId
              { row with status, releasedAmount := released }).get other = some found' ∧
            found'.clientAgentId = found.clientAgentId ∧
            found'.workerAgentId = found.workerAgentId :=
        parties_set fun other there' => by
          obtain rfl := Option.some.inj (there.symm.trans there')
          exact ⟨rfl, rfl⟩
      refine ⟨sound.reputation.set ((World.row_sound sound.reputation _).recordWorker _ _),
        List.nodup_cons.mpr ⟨fresh, sound.once⟩, ?_, ?_⟩
      · intro entry inside
        rcases List.mem_cons.mp inside with rfl | earlier
        · exact ⟨_, Table.get_set_self _ _ _, rfl, rfl⟩
        · obtain ⟨row, found, buyer, seller⟩ := sound.parties entry earlier
          obtain ⟨row', stored, client, worker⟩ := carried _ _ found
          exact ⟨row', stored, client.trans buyer, worker.trans seller⟩
      · intro entry inside
        rcases List.mem_cons.mp inside with rfl | earlier
        · exact le_rfl
        · exact sound.past entry earlier
  | other settled clock parties reputation =>
      refine ⟨reputation sound.reputation, by rw [settled]; exact sound.once, ?_, ?_⟩
      · intro entry inside
        obtain ⟨row, found, buyer, seller⟩ := sound.parties entry (settled ▸ inside)
        obtain ⟨row', stored, client, worker⟩ := parties _ _ found
        exact ⟨row', stored, client.trans buyer, worker.trans seller⟩
      · intro entry inside
        exact (sound.past entry (settled ▸ inside)).trans clock

theorem sound_of_reachable (reachable : (system settings).Reachable world) : world.Sound := by
  refine reachable.invariant (fun state initial => ?_) (fun state action next _ sound step => ?_)
  · obtain ⟨none, sound⟩ := initial
    refine ⟨sound, ?_, ?_, ?_⟩ <;> simp [none]
  · exact sound.step (perform_effect step)

/-! ## A task that gains -/

/-- What is counted by distinct keys is found under them. -/
theorem countP_le_countP_of_key {α κ ρ : Type*} {entries : List α} {rows : List (κ × ρ)}
    {key : α → κ} {counts : α → Bool} {found : κ × ρ → Bool} (nodup : (entries.map key).Nodup)
    (finds : ∀ entry ∈ entries, counts entry = true →
      ∃ row, (key entry, row) ∈ rows ∧ found (key entry, row) = true) :
    entries.countP counts ≤ rows.countP found := by
  have counted : ((entries.filter counts).map key).Nodup :=
    nodup.sublist (List.filter_sublist.map key)
  have within : (entries.filter counts).map key ⊆ (rows.filter found).map Prod.fst := by
    intro other inside
    obtain ⟨entry, member, rfl⟩ := List.mem_map.mp inside
    obtain ⟨there, holds⟩ := List.mem_filter.mp member
    obtain ⟨row, stored, also⟩ := finds entry there holds
    exact List.mem_map.mpr ⟨_, List.mem_filter.mpr ⟨stored, also⟩, rfl⟩
  have lengths := (List.subperm_of_subset counted within).length_le
  rwa [List.length_map, List.length_map, ← List.countP_eq_length_filter,
    ← List.countP_eq_length_filter] at lengths

section Gain

theorem ne_empty_of_norm {id : IdentityId} (named : norm (some id) ≠ "") : id ≠ "" := by
  rintro rfl
  simp [norm, Runtime.strip] at named

variable {taskId : TaskId} {row : Settlement} {loadedAt : ℚ}

/-- A task that counts is selected for the report of another one of its parties, and is in the window
of the pair. -/
theorem selected_of_counted {entry : Settled} {found : Settlement}
    (loaded : loadedAt ≤ world.clock) (different : entry.taskId ≠ taskId)
    (between : found.workerAgentId = row.workerAgentId ∨
      found.workerAgentId = row.clientAgentId ∧ found.clientAgentId = row.workerAgentId)
    (success : found.status ∈ successStatuses)
    (recent : world.clock - settings.pairWindow ≤ found.createdAt) :
    Selected settings (some row.clientAgentId) (some row.workerAgentId) (some taskId) loadedAt
        entry.taskId found ∧ inWindow found.edge world.clock settings.pairWindow = true := by
  have buyerNamed : row.clientAgentId ≠ "" := ne_empty_of_norm row.named.1
  have sellerNamed : row.workerAgentId ≠ "" := ne_empty_of_norm row.named.2
  constructor
  · unfold Selected
    refine ⟨success, ?_, ?_, ?_⟩
    · have longer := le_max_left (settings.pairWindowHours : ℚ)
        (max 1 (settings.burstWindowMinutes / 60 + 1 : Nat))
      have window : settings.pairWindow = settings.pairWindowHours * 3600 := rfl
      linarith
    · refine between.imp (fun worker => ?_) fun ⟨worker, client⟩ => ?_
      · exact ⟨_, rfl, sellerNamed, worker⟩
      · exact ⟨_, rfl, _, rfl, buyerNamed, sellerNamed, worker, client⟩
    · intro excluded here _
      obtain rfl := Option.some.inj here
      exact different
  · simp only [inWindow, Settlement.edge, Option.all_some, decide_eq_true_eq]
    linarith

/-- The deal that a settled task is judged as. -/
def dealOf (row : Settlement) (buyerWallet sellerWallet : Option String) : Deal where
  buyerId := some row.clientAgentId
  sellerId := some row.workerAgentId
  amount := row.amount
  buyerWallet := buyerWallet
  sellerWallet := sellerWallet

variable {buyerWallet sellerWallet : Option String}

theorem pairs_of_same {found : Settlement} (client : found.clientAgentId = row.clientAgentId)
    (worker : found.workerAgentId = row.workerAgentId)
    (recent : inWindow found.edge world.clock settings.pairWindow = true) :
    (dealOf row buyerWallet sellerWallet).pairs settings world.clock found.edge = true := by
  have named : norm (some row.clientAgentId) ≠ "" := row.named.1
  rw [Deal.pairs, recent]
  simp [Deal.buyer, Deal.seller, dealOf, Settlement.edge, client, worker, named]

theorem reverses_of_turned {found : Settlement} (client : found.clientAgentId = row.workerAgentId)
    (worker : found.workerAgentId = row.clientAgentId)
    (recent : inWindow found.edge world.clock settings.pairWindow = true) :
    (dealOf row buyerWallet sellerWallet).reverses settings world.clock found.edge = true := by
  have named : norm (some row.clientAgentId) ≠ "" := row.named.1
  rw [Deal.reverses, recent]
  simp [Deal.buyer, Deal.seller, dealOf, Settlement.edge, client, worker, named]

/-- The history that a settled task is judged by. -/
def historyOf (settings : WashSettings) (world : World) (taskId : TaskId) (row : Settlement)
    (loadedAt : ℚ) : List TradeEdge :=
  loadRecentEdges settings (world.settlements.set taskId row) (some row.clientAgentId)
    (some row.workerAgentId) (some taskId) loadedAt

/-- A task that gains was given credit. -/
theorem credit_of_gain (sound : world.Sound)
    (raised : (world.recorded settings taskId row buyerWallet sellerWallet loadedAt).RaisedOver
      (world.row row.workerAgentId)) :
    (evaluateWashSignals settings (dealOf row buyerWallet sellerWallet)
      (historyOf settings world taskId row loadedAt) world.clock).credit = true :=
  credit_of_raised (World.row_sound sound.reputation _) rfl rfl raised

theorem countP_historyOf (judges : TradeEdge → Bool) :
    (historyOf settings world taskId row loadedAt).countP judges =
      (world.settlements.set taskId row).rows.countP fun entry =>
        judges entry.2.edge ∧ Selected settings (some row.clientAgentId) (some row.workerAgentId)
          (some taskId) loadedAt entry.1 entry.2 := by
  rw [historyOf, loadRecentEdges, List.countP_map, List.countP_filter]
  apply List.countP_congr
  simp

variable (sound : world.Sound) (loaded : loadedAt ≤ world.clock)
  (fresh : taskId ∉ world.settled.map Settled.taskId)
  (counted : ∀ entry ∈ world.settled, entry.Of row.clientAgentId row.workerAgentId ∨
    entry.Of row.workerAgentId row.clientAgentId →
      world.clock - settings.pairWindow ≤ entry.settledAt → world.Counted settings entry)

include sound fresh in
/-- The settlement of an earlier task that counts, beside the one that settles. -/
theorem found_of_counted {entry : Settled} (inside : entry ∈ world.settled)
    (counts : world.Counted settings entry) :
    ∃ found, (entry.taskId, found) ∈ (world.settlements.set taskId row).rows ∧
      entry.taskId ≠ taskId ∧ found.clientAgentId = entry.buyerId ∧
      found.workerAgentId = entry.sellerId ∧ found.status ∈ successStatuses ∧
      world.clock - settings.pairWindow ≤ found.createdAt := by
  obtain ⟨found, there, success, recent⟩ := counts
  obtain ⟨row', stored, client, worker⟩ := sound.parties entry inside
  obtain rfl := Option.some.inj (there.symm.trans stored)
  have different : entry.taskId ≠ taskId := by
    rintro rfl
    exact fresh (List.mem_map_of_mem inside)
  refine ⟨found, Table.mem_rows_iff.mpr ?_, different, client, worker, success, recent⟩
  rw [Table.get_set_of_ne different]
  exact there

include sound loaded fresh counted in
/-- A task that gains is not the last one that its pair may settle in the window, and no task in the
other direction has settled in it. -/
theorem gain_bounds
    (raised : (world.recorded settings taskId row buyerWallet sellerWallet loadedAt).RaisedOver
      (world.row row.workerAgentId)) :
    row.clientAgentId ≠ row.workerAgentId ∧
      1 + world.settled.countP (fun entry => entry.Of row.clientAgentId row.workerAgentId ∧
        world.clock - settings.pairWindow ≤ entry.settledAt) < settings.pairMax ∧
      ∀ entry ∈ world.settled, entry.Of row.workerAgentId row.clientAgentId →
        entry.settledAt < world.clock - settings.pairWindow := by
  have named : (dealOf row buyerWallet sellerWallet).seller ≠ "" := row.named.2
  obtain ⟨apart, pairs, turned⟩ := counts_of_credit named (credit_of_gain sound raised)
  refine ⟨fun same => ?_, lt_of_le_of_lt (Nat.add_le_add_left ?_ 1) pairs, fun entry inside of => ?_⟩
  · have named : norm (some row.workerAgentId) ≠ "" := row.named.2
    simp [Deal.selfDeal, Deal.buyer, Deal.seller, dealOf, same, named] at apart
  · rw [countP_historyOf]
    refine countP_le_countP_of_key sound.once fun entry inside counts => ?_
    obtain ⟨of, recent⟩ := of_decide_eq_true counts
    obtain ⟨found, stored, different, client, worker, success, created⟩ :=
      found_of_counted sound fresh inside (counted entry inside (.inl of) recent)
    have selected : Selected settings (some row.clientAgentId) (some row.workerAgentId)
          (some taskId) loadedAt entry.taskId found ∧
        inWindow found.edge world.clock settings.pairWindow = true :=
      selected_of_counted loaded different (.inl (worker.trans of.2)) success created
    refine ⟨found, stored, decide_eq_true ⟨?_, selected.1⟩⟩
    exact pairs_of_same (client.trans of.1) (worker.trans of.2) selected.2
  · by_contra recent
    obtain ⟨found, stored, different, client, worker, success, created⟩ :=
      found_of_counted sound fresh inside (counted entry inside (.inr of) (not_lt.mp recent))
    have selected : Selected settings (some row.clientAgentId) (some row.workerAgentId)
          (some taskId) loadedAt entry.taskId found ∧
        inWindow found.edge world.clock settings.pairWindow = true :=
      selected_of_counted loaded different (.inr ⟨worker.trans of.2, client.trans of.1⟩) success
        created
    have turns : (dealOf row buyerWallet sellerWallet).reverses settings world.clock found.edge =
        true := reverses_of_turned (client.trans of.1) (worker.trans of.2) selected.2
    rw [countP_historyOf, List.countP_eq_zero] at turned
    exact turned _ stored (decide_eq_true ⟨turns, selected.1⟩)

end Gain

end

end TrustChain.Reputation
