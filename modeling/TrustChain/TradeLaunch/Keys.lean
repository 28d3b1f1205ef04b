import TrustChain.TradeLaunch.Replays

/-!
# Orders apart from one another

The orders that are stored and those that transactions hold have identifiers and keys of their own.
So a key has one order, and with it one voucher, however the requests are interleaved.
-/

namespace TrustChain.TradeLaunch

open Library Service

variable {platform : Platform} {settings : Settings} {world next : World} {action : Action}

/-- The orders have the same identifier or the same key. -/
def Order.Collides (order other : Order) : Prop :=
  order.orderId = other.orderId ∨
  ∃ key, order.launchIdempotencyKey = some key ∧ other.launchIdempotencyKey = some key

theorem Order.Collides.symm {order other : Order} (collides : order.Collides other) :
    other.Collides order :=
  collides.imp Eq.symm fun ⟨key, here, there⟩ => ⟨key, there, here⟩

theorem Order.MadeAs.collides_iff {order made other : Order} (same : order.MadeAs made) :
    order.Collides other ↔ made.Collides other := by
  rw [Order.Collides, Order.Collides, same.orderId, same.launchIdempotencyKey]

theorem Held.clashes_of_collides {held other : Held} (collides : held.order.Collides other.order) :
    held.Clashes other := by
  rcases collides with same | ⟨key, here, there⟩
  · exact .inl same
  · exact .inr (.inl ⟨key, here, there⟩)

/-- A request holds an order. -/
def World.Holds (world : World) (request : RequestNo) (order : Order) : Prop :=
  ∃ stage held, world.requests.get request = some stage ∧ stage.held = some held ∧
    held.order = order

def World.Stores (world : World) (order : Order) : Prop :=
  world.orders.get order.orderId = some order

/-- Orders that are stored or held by different requests do not collide. -/
structure World.Apart (world : World) : Prop where
  stored : ∀ order other, world.Stores order → world.Stores other → order.Collides other →
    order.orderId = other.orderId
  fresh : ∀ request order other, world.Holds request order → world.Stores other →
    ¬order.Collides other
  alone : ∀ request other order another, request ≠ other → world.Holds request order →
    world.Holds other another → ¬order.Collides another
  vouchers : world.tradeOrderIds.Every fun voucherId orderId =>
    ∃ order, world.Stores order ∧ order.orderId = orderId ∧ order.voucherId = some voucherId

/-- Every replay was answered with an order that is what the launch asks for. -/
def World.Answered (platform : Platform) (world : World) : Prop :=
  ∀ entry ∈ world.replays, ∃ order, world.Stores order ∧ order.orderId = entry.2 ∧
    order.AskedBy platform entry.1

section Moves

variable {request other : RequestNo} {stage : Stage} {order : Order}

theorem holds_suspend_of_ne (different : other ≠ request) :
    (world.suspend request stage).Holds other order ↔ world.Holds other order := by
  simp only [World.Holds, World.suspend, Table.get_set_of_ne different]

theorem holds_suspend_self :
    (world.suspend request stage).Holds request order ↔
      ∃ held, stage.held = some held ∧ held.order = order := by
  simp [World.Holds, World.suspend]

/-- An order that a request holds it held before, or inserts. -/
theorem Follows.held_origin (inv : world.Sound platform)
    (follows : Follows platform settings world request stage) {held : Held}
    (there : stage.held = some held) :
    (∃ earlier, world.Holds request earlier ∧ held.order.MadeAs earlier) ∨
      ¬world.Taken held.order ∧ ¬world.Waits request (.running held) := by
  cases follows with
  | received | unknown | specified | affordable | adding | ended => cases there
  | inserted here free alone =>
      obtain rfl := Option.some.inj there
      exact .inr ⟨free, alone⟩
  | @advanced earlier _ _ _ _ here part =>
      have before : earlier.Sound platform := inv.stages _ _ here
      have continues := advance_continues before.linked _ _ _ part
      refine .inl ⟨earlier.order, ⟨_, earlier, here, rfl, rfl⟩, ?_⟩
      cases stage with
      | running held | failing held =>
          obtain rfl := Option.some.inj there
          exact Held.Continues.madeAs continues
      | answered held =>
          obtain rfl := Option.some.inj there
          exact continues.1.madeAs
      | _ => cases there
  | @aborted earlier here =>
      have before : earlier.Sound platform := inv.stages _ _ here
      obtain rfl := Option.some.inj there
      exact .inl ⟨earlier.order, ⟨_, earlier, here, rfl, rfl⟩,
        before.linked.continues.abort.madeAs⟩
  | @broken earlier here detail =>
      have before : earlier.Sound platform := inv.stages _ _ here
      obtain rfl := Option.some.inj there
      exact .inl ⟨earlier.order, ⟨_, earlier, here, rfl, rfl⟩,
        (before.linked.continues.breakOff detail).madeAs⟩

theorem not_collides_of_free (free : ¬world.Taken order)
    {stored : Order} (there : world.Stores stored) : ¬order.Collides stored := by
  rintro (same | ⟨key, here, keyed⟩)
  · refine free (.inl ?_)
    rw [same, there]
    exact Option.some_ne_none _
  · exact free (.inr ⟨(stored.orderId, stored), Table.mem_rows_iff.mpr there, key, here, keyed⟩)

theorem not_collides_of_alone {held : Held} (alone : ¬world.Waits request (.running held))
    (different : other ≠ request) (holds : world.Holds other order) :
    ¬held.order.Collides order := by
  obtain ⟨stage, another, here, there, rfl⟩ := holds
  intro collides
  exact alone ⟨(other, stage), Table.mem_rows_iff.mpr here, different, another, there, held, rfl,
    held.clashes_of_collides collides⟩

end Moves

theorem World.Apart.moved (inv : world.Sound platform) (apart : world.Apart) {request : RequestNo}
    {stage : Stage} (follows : Follows platform settings world request stage) :
    (world.suspend request stage).Apart where
  stored := apart.stored
  fresh := by
    intro other order stored holds there
    by_cases same : other = request
    · subst same
      obtain ⟨held, here, rfl⟩ := holds_suspend_self.mp holds
      rcases follows.held_origin inv here with ⟨earlier, before, made⟩ | ⟨free, -⟩
      · rw [made.collides_iff]
        exact apart.fresh _ _ _ before there
      · exact not_collides_of_free free there
    · exact apart.fresh _ _ _ ((holds_suspend_of_ne same).mp holds) there
  alone := by
    -- the request that moves collides with no other one
    have here : ∀ other order another, other ≠ request →
        (world.suspend request stage).Holds request order → world.Holds other another →
        ¬order.Collides another := by
      intro other order another different holds there
      obtain ⟨held, here, rfl⟩ := holds_suspend_self.mp holds
      rcases follows.held_origin inv here with ⟨earlier, before, made⟩ | ⟨-, alone⟩
      · rw [made.collides_iff]
        exact apart.alone _ _ _ _ different.symm before there
      · exact not_collides_of_alone alone different there
    intro first other order another different holds there
    by_cases same : first = request
    · subst same
      exact here other order another different.symm holds
        ((holds_suspend_of_ne different.symm).mp there)
    · by_cases same' : other = request
      · subst same'
        intro collides
        exact here first another order same there ((holds_suspend_of_ne same).mp holds)
          collides.symm
      · exact apart.alone _ _ _ _ different ((holds_suspend_of_ne same).mp holds)
          ((holds_suspend_of_ne same').mp there)
  vouchers := apart.vouchers

section Commit

variable {request : RequestNo} {held : Held}
  (here : world.requests.get request = some (.answered held))

include here

theorem holds_of_answered : world.Holds request held.order := ⟨_, held, here, rfl, rfl⟩

theorem stores_commit_iff (apart : world.Apart) {order : Order} :
    ((world.suspend request .ended).commit held).Stores order ↔
      order = held.order ∨ world.Stores order := by
  by_cases same : order.orderId = held.order.orderId
  · have absent : ¬world.Stores order := fun stored =>
      apart.fresh _ _ _ (holds_of_answered here) stored (.inl same.symm)
    simp only [World.Stores, World.commit, same, Table.get_set_self, Option.some.injEq]
    rw [World.Stores, same] at absent
    simp [absent, eq_comm]
  · have different : order ≠ held.order := fun equal => same (congrArg Order.orderId equal)
    simp only [World.Stores, World.commit, World.suspend, Table.get_set_of_ne same, different,
      false_or]

/-- A request that still holds an order after the commit is another one. -/
theorem holds_commit {other : RequestNo} {order : Order}
    (holds : ((world.suspend request .ended).commit held).Holds other order) :
    other ≠ request ∧ world.Holds other order := by
  have holds : (world.suspend request .ended).Holds other order := holds
  by_cases same : other = request
  · subst same
    obtain ⟨found, none, -⟩ := holds_suspend_self.mp holds
    cases none
  · exact ⟨same, (holds_suspend_of_ne same).mp holds⟩

theorem World.Apart.committed (apart : world.Apart) (linked : held.Linked) :
    ((world.suspend request .ended).commit held).Apart where
  stored := by
    intro order other stores there collides
    rcases (stores_commit_iff here apart).mp stores with rfl | stores
    · rcases (stores_commit_iff here apart).mp there with rfl | there
      · rfl
      · exact absurd collides (apart.fresh _ _ _ (holds_of_answered here) there)
    · rcases (stores_commit_iff here apart).mp there with rfl | there
      · exact absurd collides.symm (apart.fresh _ _ _ (holds_of_answered here) stores)
      · exact apart.stored _ _ stores there collides
  fresh := by
    intro other order stored holds there
    obtain ⟨different, holds⟩ := holds_commit here holds
    rcases (stores_commit_iff here apart).mp there with rfl | there
    · exact apart.alone _ _ _ _ different holds (holds_of_answered here)
    · exact apart.fresh _ _ _ holds there
  alone := by
    intro first other order another different holds there
    exact apart.alone _ _ _ _ different (holds_commit here holds).2 (holds_commit here there).2
  vouchers := by
    have kept : world.tradeOrderIds.Every fun voucherId orderId =>
        ∃ order, ((world.suspend request .ended).commit held).Stores order ∧
          order.orderId = orderId ∧ order.voucherId = some voucherId := by
      refine apart.vouchers.mono fun voucherId orderId => ?_
      rintro ⟨order, stores, names⟩
      exact ⟨order, (stores_commit_iff here apart).mpr (.inr stores), names⟩
    change Table.Every (held.voucher.elim world.tradeOrderIds _) _
    cases voucher : held.voucher with
    | none => exact kept
    | some entry =>
        exact kept.set ⟨held.order, (stores_commit_iff here apart).mpr (.inl rfl), rfl,
          linked entry voucher⟩

end Commit

theorem World.Apart.step (inv : world.Sound platform) (apart : world.Apart)
    (effect : Effect platform settings world action next) : next.Apart := by
  cases effect with
  | moved follows => exact apart.moved inv follows
  | @replayed request launch text _ _ here =>
      have follows : Follows platform settings world request .ended := .ended
      have ended : (world.suspend request .ended).Apart := apart.moved inv follows
      exact ⟨ended.stored, ended.fresh, ended.alone, ended.vouchers⟩
  | committed here =>
      have held : Stage.Sound platform (.answered _) := inv.stages _ _ here
      exact apart.committed here held.1.linked

theorem apart_of_reachable (reachable : (system platform settings).Reachable world) :
    world.Apart := by
  refine reachable.invariant (fun state initial => ?_) (fun state action next reached apart step => ?_)
  · obtain ⟨db, policies, runtimeKeys, rfl⟩ := initial
    refine ⟨?_, ?_, ?_, Table.every_empty _⟩
    · intro order other stores
      cases stores
    · rintro request order stored ⟨stage, held, none, -⟩
      cases none
    · rintro request other order another - ⟨stage, held, none, -⟩
      cases none
  · exact apart.step (sound_of_reachable reached) (perform_effect step).1

/-! ## One order, one voucher, and the replays -/

/-- The orders of a key. -/
def World.ordersOf (world : World) (key : String) : Set OrderId :=
  {orderId | ∃ order, world.Stores order ∧ order.orderId = orderId ∧
    order.launchIdempotencyKey = some key}

/-- The vouchers that name an order of a key. -/
def World.vouchersOf (world : World) (key : String) : Set VoucherId :=
  {voucherId | ∃ orderId ∈ world.ordersOf key, world.tradeOrderIds.get voucherId = some orderId}

theorem World.Apart.ordersOf_subsingleton (apart : world.Apart) (key : String) :
    (world.ordersOf key).Subsingleton := by
  rintro _ ⟨order, stores, rfl, keyed⟩ _ ⟨other, there, rfl, alike⟩
  exact apart.stored _ _ stores there (.inr ⟨key, keyed, alike⟩)

theorem World.Apart.vouchersOf_subsingleton (apart : world.Apart) (key : String) :
    (world.vouchersOf key).Subsingleton := by
  rintro voucherId ⟨orderId, ordered, names⟩ other ⟨another, alike, also⟩
  obtain rfl := apart.ordersOf_subsingleton key ordered alike
  obtain ⟨order, stores, same, linked⟩ := apart.vouchers _ _ names
  obtain ⟨order', stores', same', linked'⟩ := apart.vouchers _ _ also
  have equal : order = order' := by
    rw [World.Stores, same] at stores
    rw [World.Stores, same'] at stores'
    exact Option.some.inj (stores.symm.trans stores')
  rw [← equal] at linked'
  exact Option.some.inj (linked.symm.trans linked')

theorem findOrderByIdempotencyKey_eq_some {key : String} {existing : Order}
    (inv : world.Sound platform)
    (known : findOrderByIdempotencyKey world.orders key = some existing) :
    world.Stores existing ∧ existing.launchIdempotencyKey = some key := by
  have keyed := List.find?_some known
  obtain ⟨⟨orderId, order⟩, inside, rfl⟩ := List.mem_map.mp (List.mem_of_find?_eq_some known)
  have stored := Table.mem_rows_iff.mp inside
  have same : order.orderId = orderId := (inv.orders _ _ stored).1
  refine ⟨?_, by simpa using keyed⟩
  rw [World.Stores, same]
  exact stored

theorem World.Answered.step (sound : platform.Sound) (inv : world.Sound platform)
    (apart : world.Apart) (answered : world.Answered platform)
    (effect : Effect platform settings world action next) : next.Answered platform := by
  cases effect with
  | moved => exact answered
  | replayed here keyed known same =>
      intro entry inside
      rcases List.mem_cons.mp inside with rfl | earlier
      · obtain ⟨stores, alike⟩ := findOrderByIdempotencyKey_eq_some inv known
        obtain ⟨-, ⟨asked, genuine⟩, -⟩ := inv.orders _ _ stores
        exact ⟨_, stores, rfl, askedBy_of_matches sound (inv.stages _ _ here) genuine
          (alike.trans keyed.symm) same⟩
      · exact answered entry earlier
  | committed here =>
      intro entry inside
      obtain ⟨order, stores, asked⟩ := answered entry inside
      exact ⟨order, (stores_commit_iff here apart).mpr (.inr stores), asked⟩

theorem answered_of_reachable (sound : platform.Sound)
    (reachable : (system platform settings).Reachable world) : world.Answered platform := by
  refine reachable.invariant (fun state initial => ?_) (fun state action next reached inv step => ?_)
  · obtain ⟨db, policies, runtimeKeys, rfl⟩ := initial
    intro entry inside
    cases inside
  · exact inv.step sound (sound_of_reachable reached) (apart_of_reachable reached)
      (perform_effect step).1

end TrustChain.TradeLaunch
