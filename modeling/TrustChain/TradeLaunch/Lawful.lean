import Mathlib.Data.Rat.Encodable
import TrustChain.TradeLaunch.Keys

/-!
# The budget of the day

A launch compares the daily limit with the orders that its budget sum has read. The limit is kept if
no other order of the same buyer and day is stored between the sum and the commit.
-/

namespace TrustChain.TradeLaunch

open Library Service

section Budget

variable {platform : Platform} {settings : Settings} {world next : World} {action : Action}

theorem Order.Genuine.amount_nonneg {order : Order} (genuine : order.Genuine platform) :
    0 ≤ order.decomposedSpec.amount := by
  obtain ⟨launch, asked⟩ := genuine
  rw [asked.decomposedSpec.amount, parsedAmount]
  cases given : launch.amount with
  | some amount => exact (launch.positive amount given).le
  | none =>
      cases (platform.discover order.requirementText).1 with
      | none => norm_num
      | some found => exact found.2

theorem effectiveSpendingLimits_daily_le (policy : AutomationPolicy) :
    (effectiveSpendingLimits policy).2 ≤ max policy.dailyLimit 0 := by
  unfold effectiveSpendingLimits
  split
  · have least := min_le_left policy.dailyLimit hnpMaxDailyLimit
    have := le_max_left policy.dailyLimit 0
    have := le_max_right policy.dailyLimit 0
    rw [hnpSpendMultiplier]
    linarith
  · exact le_max_left _ _

theorem effectiveSpendingLimits_daily_pos {policy : AutomationPolicy}
    (positive : 0 < policy.dailyLimit) : 0 < (effectiveSpendingLimits policy).2 := by
  unfold effectiveSpendingLimits
  split
  · exact mul_pos (lt_min positive (by norm_num [hnpMaxDailyLimit]))
      (by norm_num [hnpSpendMultiplier])
  · exact positive

/-! ## What the sum has read -/

/-- With the rows that the sum has read, the amount is within the daily limit of the buyer. -/
def Within (policies : IdentityId → Option AutomationPolicy) (buyerIdentityId : IdentityId)
    (amount : ℚ) (counted : Option (List Order)) : Prop :=
  ∀ policy, policies buyerIdentityId = some policy → 0 < policy.dailyLimit →
    ∃ rows, counted = some rows ∧ (∀ row ∈ rows, 0 ≤ row.decomposedSpec.amount) ∧
      sumAmounts rows + amount ≤ policy.dailyLimit + epsilon

def Held.Within (policies : IdentityId → Option AutomationPolicy) (held : Held) : Prop :=
  TradeLaunch.Within policies held.order.buyerIdentityId held.order.decomposedSpec.amount
    held.counted

theorem Held.Continues.within {held earlier : Held} (continues : held.Continues earlier)
    {policies : IdentityId → Option AutomationPolicy} (before : earlier.Within policies) :
    held.Within policies := by
  rw [Held.Within, continues.madeAs.buyerIdentityId, continues.madeAs.decomposedSpec,
    continues.counted]
  exact before

/-- From the sum on, a request is within the budget as the sum has found it. -/
def Stage.Within (policies : IdentityId → Option AutomationPolicy) : Stage → Prop
  | .affordable launch _ spec counted =>
      TradeLaunch.Within policies launch.buyerIdentityId spec.amount counted
  | .adding held | .running held | .answered held | .failing held => held.Within policies
  | .received .. | .unknown .. | .specified .. | .ended => True

theorem Stage.Continues.within {stage : Stage} {earlier : Held} (continues : stage.Continues earlier)
    {policies : IdentityId → Option AutomationPolicy} (before : earlier.Within policies) :
    stage.Within policies := by
  cases stage with
  | running held => exact Held.Continues.within continues before
  | failing held => exact Held.Continues.within continues before
  | answered held => exact continues.1.within before
  | _ => cases continues

/-- The check leaves room for the amount beside the rows that it reads. -/
theorem within_of_assert (inv : world.Sound platform) {policy : AutomationPolicy}
    {buyerIdentityId : IdentityId} {amount now : ℚ} {counted : Option (List Order)}
    (policed : world.policies buyerIdentityId = some policy)
    (checked : assertPreLaunchSpendingPolicy world.orders policy buyerIdentityId amount now =
      .ok counted) :
    Within world.policies buyerIdentityId amount counted := by
  intro found there positive
  obtain rfl := Option.some.inj (policed.symm.trans there)
  unfold assertPreLaunchSpendingPolicy at checked
  dsimp only at checked
  split at checked
  case isTrue none => exact absurd none (not_le.mpr (effectiveSpendingLimits_daily_pos positive))
  case isFalse =>
    obtain ⟨within, read⟩ := require_bind_eq_ok.mp checked
    have most := effectiveSpendingLimits_daily_le policy
    rw [max_eq_left positive.le] at most
    refine ⟨_, (Except.ok.inj read).symm, ?_, by linarith⟩
    intro row inside
    obtain ⟨⟨orderId, order⟩, member, rfl⟩ := List.mem_map.mp (List.mem_of_mem_filter inside)
    exact (inv.orders _ _ (Table.mem_rows_iff.mp member)).2.1.amount_nonneg

theorem Follows.within (inv : world.Sound platform)
    (before : world.requests.Every fun _ stage => stage.Within world.policies)
    {request : RequestNo} {stage : Stage}
    (follows : Follows platform settings world request stage) : stage.Within world.policies := by
  cases follows with
  | received | unknown | specified | ended => trivial
  | affordable here policed checked => exact within_of_assert inv policed checked
  | adding here => exact (before _ _ here : Stage.Within _ (.affordable ..))
  | inserted here => exact (before _ _ here : Stage.Within _ (.adding _))
  | advanced here part =>
      have sound : Held.Sound platform _ := inv.stages _ _ here
      exact (advance_continues sound.linked _ _ _ part).within (before _ _ here)
  | aborted here =>
      have sound : Held.Sound platform _ := inv.stages _ _ here
      exact sound.linked.continues.abort.within (before _ _ here)
  | broken here detail =>
      have sound : Held.Sound platform _ := inv.stages _ _ here
      exact (sound.linked.continues.breakOff detail).within (before _ _ here)

theorem within_of_reachable (reachable : (system platform settings).Reachable world) :
    world.requests.Every fun _ stage => stage.Within world.policies := by
  refine reachable.invariant (fun state initial => ?_) (fun state action next reached inv step => ?_)
  · obtain ⟨db, policies, runtimeKeys, rfl⟩ := initial
    exact Table.every_empty _
  · cases (perform_effect step).1 with
    | moved follows => exact inv.set (follows.within (sound_of_reachable reached) inv)
    | replayed => exact inv.set trivial
    | committed => exact inv.set trivial

/-! ## What has been spent -/

/-- What the stored orders of a buyer and a UTC day amount to. -/
def World.spentOn (world : World) (buyerIdentityId : IdentityId) (today : ℤ) : ℚ :=
  world.orders.total fun _ order =>
    if order.CountsOn buyerIdentityId today then order.decomposedSpec.amount else 0

def World.WithinBudget (world : World) : Prop :=
  ∀ buyerIdentityId policy today, world.policies buyerIdentityId = some policy →
    0 < policy.dailyLimit → world.spentOn buyerIdentityId today ≤ policy.dailyLimit + epsilon

/-- If the rows have every order that counts, they amount to what has been spent. -/
theorem spentOn_le_sumAmounts (inv : world.Sound platform) {buyerIdentityId : IdentityId}
    {today : ℤ} {rows : List Order} (nonneg : ∀ row ∈ rows, 0 ≤ row.decomposedSpec.amount)
    (complete : ∀ order, world.Stores order → order.CountsOn buyerIdentityId today →
      order ∈ rows) :
    world.spentOn buyerIdentityId today ≤ sumAmounts rows := by
  have stores : ∀ entry ∈ world.orders.rows, world.Stores entry.2 ∧ entry.2.orderId = entry.1 := by
    intro entry inside
    have stored := Table.mem_rows_iff.mp inside
    have same := (inv.orders _ _ stored).1
    refine ⟨?_, same⟩
    rw [World.Stores, same]
    exact stored
  refine Table.sum_le_sum_of_matching (fun entry row => entry.2 = row) nonneg ?_ ?_
  · intro entry inside
    dsimp only
    by_cases counts : entry.2.CountsOn buyerIdentityId today
    · rw [if_pos counts]
      exact .inr ⟨entry.2, complete _ (stores entry inside).1 counts, rfl, le_rfl⟩
    · rw [if_neg counts]
      exact .inl le_rfl
  · refine (List.pairwise_map.mp world.orders.nodup).imp_of_mem ?_
    rintro entry other inside there different row rfl same
    have keys : other.1 = entry.1 := by
      rw [← (stores entry inside).2, ← (stores other there).2, same]
    exact different keys.symm

/-! ## The commit -/

/-- What a launch that has returned is about to store. -/
def Stage.answered? : Stage → Option Held
  | .answered held => some held
  | _ => none

/-- Every order of the same buyer and day that counts was there when the launch took its budget
sum. No launch raises once its order is inserted. -/
def Action.Kept (world : World) : Action → Prop
  | .commit request =>
      ∀ held ∈ (world.requests.get request).bind Stage.answered?, held.order.Counts →
        ∀ rows ∈ held.counted, ∀ entry ∈ world.orders.rows,
          entry.2.CountsOn held.order.buyerIdentityId (day held.order.createdAt) → entry.2 ∈ rows
  | .rollBack _ => False
  | _ => True

instance (world : World) (action : Action) : Decidable (action.Kept world) :=
  match action with
  | .commit request =>
      inferInstanceAs (Decidable (∀ held ∈ (world.requests.get request).bind Stage.answered?, _))
  | .rollBack _ => isFalse id
  | .launch .. | .lookUp _ | .specify .. | .sum .. | .sign .. | .insert _ | .advance ..
  | .raise .. => isTrue trivial

section Commit

variable (inv : world.Sound platform) (apart : world.Apart) {request : RequestNo} {held : Held}
  (here : world.requests.get request = some (.answered held))

include inv apart here

theorem spentOn_commit (buyerIdentityId : IdentityId) (today : ℤ) :
    ((world.suspend request .ended).commit held).spentOn buyerIdentityId today =
      world.spentOn buyerIdentityId today +
        if held.order.CountsOn buyerIdentityId today then held.order.decomposedSpec.amount
        else 0 := by
  have absent : world.orders.get held.order.orderId = none := by
    cases found : world.orders.get held.order.orderId with
    | none => rfl
    | some order =>
        have same := (inv.orders _ _ found).1
        have stored : world.Stores order := by rwa [World.Stores, same]
        exact absurd (.inl same.symm) (apart.fresh _ _ _ (holds_of_answered here) stored)
  have exchanged := Table.total_set world.orders held.order.orderId held.order
    fun _ order => if order.CountsOn buyerIdentityId today then order.decomposedSpec.amount else 0
  rw [absent] at exchanged
  exact (add_zero _).symm.trans exchanged

omit apart in
/-- A commit that is kept stays within the budget that its sum has found. -/
theorem spentOn_commit_le (within : held.Within world.policies)
    (kept : (Action.commit request).Kept world) {policy : AutomationPolicy}
    (policed : world.policies held.order.buyerIdentityId = some policy)
    (positive : 0 < policy.dailyLimit) (counts : held.order.Counts) :
    world.spentOn held.order.buyerIdentityId (day held.order.createdAt) +
      held.order.decomposedSpec.amount ≤ policy.dailyLimit + epsilon := by
  obtain ⟨rows, counted, nonneg, room⟩ := within policy policed positive
  have complete : ∀ order, world.Stores order →
      order.CountsOn held.order.buyerIdentityId (day held.order.createdAt) → order ∈ rows := by
    intro order stores
    have answered : held ∈ (world.requests.get request).bind Stage.answered? := by
      rw [here]
      rfl
    exact kept held answered counts rows counted _ (Table.mem_rows_iff.mpr stores)
  have spent := spentOn_le_sumAmounts inv nonneg complete
  linarith

end Commit

theorem World.WithinBudget.step (inv : world.Sound platform) (apart : world.Apart)
    (stages : world.requests.Every fun _ stage => stage.Within world.policies)
    (budget : world.WithinBudget) (effect : Effect platform settings world action next)
    (kept : action.Kept world) : next.WithinBudget := by
  cases effect with
  | moved => exact budget
  | replayed => exact budget
  | @committed request held here =>
      intro buyerIdentityId policy today policed positive
      rw [spentOn_commit inv apart here]
      split
      case isTrue counts =>
        obtain ⟨rfl, rfl, counts⟩ := counts
        exact spentOn_commit_le inv here (stages _ _ here) kept policed positive counts
      case isFalse =>
        rw [add_zero]
        exact budget _ _ _ policed positive

theorem withinBudget_of_run {start : World} {actions : List Action}
    (initial : (system platform settings).Init start)
    (run : ((system platform settings).restrict fun world action => action.Kept world).Run start
      actions world) : world.WithinBudget := by
  have empty : start.WithinBudget := by
    obtain ⟨db, policies, runtimeKeys, rfl⟩ := initial
    intro buyerIdentityId policy today policed positive
    have := epsilon_nonneg
    simp only [World.spentOn, Table.total_empty]
    linarith
  refine run.preserves_restricted (fun state action next reached budget step kept => ?_)
    (.init initial) empty
  exact budget.step (sound_of_reachable reached) (apart_of_reachable reached)
    (within_of_reachable reached) (perform_effect step).1 kept

end Budget

/-! ## Launches within the law

A launch that raises marks its order as failed and then undoes its whole transaction, the mark with
it. So it leaves nothing behind, not even the order that failed.
-/

open TransitionSystem

section

variable {platform : Platform} {settings : Settings} {world next start : World} {action : Action}
  {actions : List Action}

/-! ## Launches that fail -/

/-- A launch that had inserted the order is undone. -/
def FailsOn (order : Order) (world : World) (action : Action) : Prop :=
  ∃ request held, action = .rollBack request ∧
    world.requests.get request = some (.failing held) ∧ held.order = order

theorem failsOn_rollBack {request : RequestNo}
    (taken : perform platform settings world (.rollBack request) = some next) :
    ∃ order, FailsOn order world (.rollBack request) := by
  simp only [perform] at taken
  split at taken
  case h_1 held here => exact ⟨held.order, request, held, rfl, here, rfl⟩
  case h_2 => cases taken

/-- The order is stored as a failed one. -/
def World.StoresFailed (world : World) (order : Order) : Prop :=
  ∃ failed, world.Stores failed ∧ failed.orderId = order.orderId ∧ failed.status = .failed

/-- A launch fails, and its order is not stored as a failed one. -/
def Unstored (world : World) (action : Action) (next : World) : Prop :=
  ∃ order, FailsOn order world action ∧ ¬next.StoresFailed order

/-- A launch fails and leaves a voucher, a task contract, a settlement or reserved credits. -/
def Leftover (world : World) (action : Action) (next : World) : Prop :=
  ∃ order, FailsOn order world action ∧
    ((∃ voucherId, next.tradeOrderIds.get voucherId = some order.orderId) ∨
      next.db.vouchers ≠ world.db.vouchers ∨ next.db.contracts ≠ world.db.contracts ∨
      next.db.settlements ≠ world.db.settlements ∨ next.db.capacity ≠ world.db.capacity)

/-- No order that failed is ever stored. -/
theorem not_storesFailed (inv : world.Sound platform) (order : Order) :
    ¬world.StoresFailed order := by
  rintro ⟨failed, stores, -, status⟩
  have ended := (inv.orders _ _ stores).2.2
  rw [status] at ended
  simp at ended

theorem unstored_iff (reachable : (system platform settings).Reachable world)
    (taken : (system platform settings).Step world action next) :
    Unstored world action next ↔ ∃ order, FailsOn order world action := by
  have inv := sound_of_reachable (reachable.step taken)
  constructor
  · rintro ⟨order, fails, -⟩
    exact ⟨order, fails⟩
  · rintro ⟨order, fails⟩
    exact ⟨order, fails, not_storesFailed inv order⟩

theorem not_leftover (apart : world.Apart)
    (taken : perform platform settings world action = some next) :
    ¬Leftover world action next := by
  rintro ⟨_, ⟨request, held, rfl, here, rfl⟩, left⟩
  simp only [perform, here, Option.some.injEq] at taken
  subst taken
  rcases left with ⟨voucherId, names⟩ | changed | changed | changed | changed
  · obtain ⟨order, stores, same, -⟩ := apart.vouchers _ _ names
    exact apart.fresh request held.order order ⟨_, held, here, rfl, rfl⟩ stores (.inl same.symm)
  all_goals exact changed rfl

/-- In every run a key has one order and one voucher, every replay is what was asked for, and a
launch that fails leaves nothing. If every order that counts was there at the budget sum and no
launch fails after its order was inserted, the budget is kept, and every order that failed is
stored. -/
theorem launches_lawful (sound : platform.Sound) (initial : (system platform settings).Init start)
    (run : (system platform settings).Run start actions world) :
    (∀ key, (world.ordersOf key).Subsingleton ∧ (world.vouchersOf key).Subsingleton) ∧
      world.Answered platform ∧
      ¬(system platform settings).Takes start actions world Leftover ∧
      (((system platform settings).restrict fun world action => action.Kept world).Run start
        actions world →
        world.WithinBudget ∧ ¬(system platform settings).Takes start actions world Unstored) := by
  have reachable : (system platform settings).Reachable world := ⟨start, actions, initial, run⟩
  have apart := apart_of_reachable reachable
  refine ⟨fun key => ⟨apart.ordersOf_subsingleton key, apart.vouchersOf_subsingleton key⟩,
    answered_of_reachable sound reachable, ?_, fun kept => ⟨withinBudget_of_run initial kept, ?_⟩⟩
  · rintro ⟨before, action, after, state, next, -, earlier, taken, -, leftover⟩
    exact not_leftover (apart_of_reachable ⟨start, before, initial, earlier⟩) taken leftover
  · rintro ⟨before, action, after, state, next, rfl, earlier, -, -, order, ⟨request, held, rfl, -⟩, -⟩
    -- a step that undoes an order is not one of the run
    obtain ⟨middle, -, later⟩ := kept.split
    obtain ⟨_, taken, -⟩ := later.uncons
    exact taken.2

/-- An order that is stored is what some launch asked for, has been rejected or executed, and stays
stored as it is. -/
theorem stored_orders_stand {later : World} {order : Order}
    (reachable : (system platform settings).Reachable world) (stored : world.Stores order)
    (run : (system platform settings).Run world actions later) :
    order.Genuine platform ∧ order.status ∈ [OrderStatus.rejected, .executionStarted] ∧
      later.Stores order := by
  obtain ⟨-, genuine, final⟩ := (sound_of_reachable reachable).orders _ _ stored
  refine ⟨genuine, final, ?_⟩
  refine run.preserves_reachable (fun state action next reached stores step => ?_) reachable stored
  cases (perform_effect step).1 with
  | moved | replayed => exact stores
  | committed here => exact (stores_commit_iff here (apart_of_reachable reached)).mpr (.inr stores)

end

namespace Demo

/-- Bars are written as letters. -/
def spell : Char → List Char
  | '|' => ['a', 'b']
  | 'a' => ['a', 'a']
  | char => [char]

theorem spell_inj {char other : Char} {rest more : List Char}
    (same : spell char ++ rest = spell other ++ more) : char = other ∧ rest = more := by
  unfold spell at same
  split at same <;> split at same <;> grind

theorem flatMap_spell_injective :
    Function.Injective fun chars : List Char => chars.flatMap spell := by
  have nonempty : ∀ char, spell char ≠ [] := by
    intro char
    unfold spell
    split <;> simp
  intro chars
  induction chars with
  | nil =>
      intro other same
      cases other with
      | nil => rfl
      | cons char rest => simp [nonempty] at same
  | cons char rest ih =>
      intro other same
      cases other with
      | nil => simp [nonempty] at same
      | cons head tail =>
          obtain ⟨rfl, rests⟩ := spell_inj (by simpa using same)
          exact congrArg _ (ih rests)

theorem plain_spell (char : Char) : '|' ∉ spell char := by
  unfold spell
  split <;> simp_all [eq_comm]

def platform : Platform where
  sha256 text := .ofList ('h' :: text.toList.flatMap spell)
  str amount := .ofList ('n' :: List.replicate (Encodable.encode amount) 'i')
  discover _ := (some 10, "t")
  precision _ := 1

theorem platform_sound : platform.Sound where
  sha256_injective := by
    intro text other same
    have spelled := List.cons.inj (String.ofList_injective same)
    exact String.toList_injective (flatMap_spell_injective spelled.2)
  sha256_plain := by
    intro text
    simp [platform, plain_spell]
  sha256_ne_empty := by simp [platform]
  str_injective := by
    intro amount other same
    have spelled := List.cons.inj (String.ofList_injective same)
    exact Encodable.encode_injective (by simpa using congrArg List.length spelled.2)
  str_plain := by simp [platform]
  str_ne_empty := by simp [platform]

def settings : Settings := { settlementMode := "" }

theorem none_positive : ∀ asked ∈ (none : Option ℚ), 0 < asked := by simp

def launch (key : Option String) : Launch where
  buyerIdentityId := "b"
  sellerIdentityId := "s"
  requirementText := "x"
  launchIdempotencyKey := key
  positive := none_positive

def policy : AutomationPolicy := { singleLimit := 10, dailyLimit := 15 }

def capacity (credits : ℚ) : Capacity where
  totalLockedUsdc := credits
  totalBillCredits := credits
  availableCredits := credits

def start (credits : ℚ) : World where
  db := { capacity := Table.empty.set "b" (capacity credits) }
  policies _ := some policy
  runtimeKeys := [⟨"b", "active", 100⟩, ⟨"s", "active", 100⟩]

/-- A launch up to the budget sum. -/
def ask (request : RequestNo) (key : Option String) : List Action :=
  [.launch request (launch key), .lookUp request, .specify request (toString request) 1,
    .sum request 1]

/-- A launch from the signature on, with so many parts of the pipeline. -/
def pursue (request : RequestNo) (parts : Nat) : List Action :=
  [.sign request (toString request) 1, .insert request] ++
    List.replicate parts (.advance request (toString request) (toString request) 1)

/-- Two launches take their budget sums before either is stored. -/
def overlapping : Scene (perform platform settings) (start 100) where
  actions := ask 1 none ++ ask 2 none ++ pursue 1 8 ++ [.commit 1] ++ pursue 2 8 ++ [.commit 2]
  possible := by decide +kernel

/-- The buyer has no credits for the order. -/
def insolvent : Scene (perform platform settings) (start 5) where
  actions := ask 1 none ++ pursue 1 1
  possible := by decide +kernel

def performKept (world : World) (action : Action) : Option World :=
  if action.Kept world then perform platform settings world action else none

theorem restricted_of_performKept (world : World) (action : Action) (next : World)
    (taken : performKept world action = some next) :
    ((system platform settings).restrict fun world action => action.Kept world).Step world action
      next := by
  unfold performKept at taken
  split at taken
  case isTrue kept => exact ⟨taken, kept⟩
  case isFalse => cases taken

/-- A launch, and another one with the same key. -/
def repeated : Scene performKept (start 100) where
  actions := ask 1 (some "k") ++ pursue 1 8 ++
    [.commit 1, .launch 2 (launch (some "k")), .lookUp 2]
  possible := by decide +kernel

theorem start_initial (credits : ℚ) : (system platform settings).Init (start credits) :=
  ⟨_, _, _, rfl⟩

theorem repeated_run : ((system platform settings).restrict fun world action =>
    action.Kept world).Run (start 100) repeated.actions repeated.world :=
  repeated.run restricted_of_performKept

end Demo

theorem launches_lawful_repeated :
    Demo.repeated.world.replays.length = 1 ∧ Demo.repeated.world.Answered Demo.platform ∧
      Demo.repeated.world.WithinBudget := by
  have lawful := launches_lawful Demo.platform_sound (Demo.start_initial 100)
    Demo.repeated_run.of_restrict
  exact ⟨by decide +kernel, lawful.2.1, (lawful.2.2.2 Demo.repeated_run).1⟩

theorem stored_orders_stand_overlapping :
    ∃ later order, (system Demo.platform Demo.settings).Step Demo.overlapping.world
      (.launch 3 (Demo.launch none)) later ∧ later.Stores order ∧ order.orderId = "1" := by
  obtain ⟨order, stored, named⟩ : ∃ order ∈ Demo.overlapping.world.orders.get "1",
      order.orderId = "1" := by decide +kernel
  have step := Demo.overlapping.performed (.launch 3 (Demo.launch none)) (by decide +kernel)
  have run : (system Demo.platform Demo.settings).Run (Demo.start 100) Demo.overlapping.actions
      Demo.overlapping.world := Demo.overlapping.run fun _ _ _ => id
  have stores : Demo.overlapping.world.Stores order := by rwa [World.Stores, named]
  exact ⟨_, order, step, (stored_orders_stand ⟨_, _, Demo.start_initial 100, run⟩ stores
    (.single step)).2.2, named⟩

/-- Two launches that overlap go over the budget together, and a launch that fails for want of
credits is not stored as a failed order. -/
theorem not_launches_lawful :
    ((system Demo.platform Demo.settings).Run (Demo.start 100) Demo.overlapping.actions
        Demo.overlapping.world ∧ ¬Demo.overlapping.world.WithinBudget) ∧
      ∃ next, (system Demo.platform Demo.settings).Takes (Demo.start 5)
        (Demo.insolvent.actions ++ [.rollBack 1]) next Unstored := by
  refine ⟨⟨Demo.overlapping.run fun _ _ _ => id, fun budget => ?_⟩, ?_⟩
  · have policed : Demo.overlapping.world.policies "b" = some Demo.policy := by decide +kernel
    have beyond : ¬Demo.overlapping.world.spentOn "b" 0 ≤ Demo.policy.dailyLimit + epsilon := by
      decide +kernel
    exact beyond (budget "b" Demo.policy 0 policed (by decide +kernel))
  · have run : (system Demo.platform Demo.settings).Run (Demo.start 5) Demo.insolvent.actions
        Demo.insolvent.world := Demo.insolvent.run fun _ _ _ => id
    have taken := Demo.insolvent.performed (.rollBack 1) (by decide +kernel)
    have reached : (system Demo.platform Demo.settings).Reachable Demo.insolvent.world :=
      ⟨_, _, Demo.start_initial 5, run⟩
    exact ⟨_, .last run taken ((unstored_iff reached taken).mpr (failsOn_rollBack taken))⟩

end TrustChain.TradeLaunch
