import TrustChain.PaymentIntents.Service

/-!
# The life of a payment intent

An operation changes an intent in one of three ways, and makes at most one. What the lifecycle
asks for beyond that is asked of the requests: the operations do not compare a repeated request
with the intent it finds, a binding with the task that is bound, or the clock with the expiry.
-/

namespace TrustChain.PaymentIntents

open Library

section Rules

variable {isdigit : String → Bool} {world next : World} {action : Action}

/-! ## What an operation does -/

/-- What an operation makes of an intent that is there. -/
inductive Change (time : Time) (intentId : String) (row : PaymentIntent) :
    Action → PaymentIntent → Prop
  | kept (action : Action) : Change time intentId row action row
  | bound (taskId voucherId : Option String) : row.closed = false →
      Change time intentId row (.bind time intentId taskId voucherId)
        (row.bind time taskId voucherId)
  | settled (taskId : String) : row.linkedTo taskId = true →
      Change time intentId row (.settle time taskId)
        { row with status := .settled, updatedAt := time }
  | expired : row.stale time = true →
      Change time intentId row (.expire time) { row with status := .expired, updatedAt := time }

theorem createPaymentIntent_ok {intents after : Intents} {now later : Time}
    {intentId answer : String} {terms : Terms} {expiresAt : Time} {idempotencyKey : String}
    {taskId voucherId : Option String} {replayed : Bool}
    (created : createPaymentIntent isdigit intents now later intentId terms expiresAt
      idempotencyKey taskId voucherId = .ok (after, answer, replayed)) :
    (replayed = true ∧ after = intents ∧
      ∃ row, findByKey intents idempotencyKey = some (answer, row)) ∨
    (replayed = false ∧ answer = intentId ∧ findByKey intents idempotencyKey = none ∧
      intents.get intentId = none ∧ now < expiresAt ∧ after = intents.set intentId
        (newIntent now later terms expiresAt idempotencyKey taskId voucherId)) := by
  unfold createPaymentIntent at created
  split at created
  · cases created
  split at created
  · next replay row found =>
      obtain ⟨rfl, rfl, rfl⟩ : intents = after ∧ replay = answer ∧ true = replayed := by
        simpa using created
      exact .inl ⟨rfl, rfl, row, found⟩
  · next missing =>
      split_ifs at created with past taken
      obtain ⟨rfl, rfl, rfl⟩ : _ = after ∧ intentId = answer ∧ false = replayed := by
        simpa using created
      exact .inr ⟨rfl, rfl, missing, by simpa using taken, Nat.lt_of_not_le past, rfl⟩

theorem bindPaymentIntent_ok {intents after : Intents} {now : Time} {intentId : String}
    {taskId voucherId : Option String}
    (bound : bindPaymentIntent intents now intentId taskId voucherId = .ok after) :
    ∃ row, intents.get intentId = some row ∧ row.closed = false ∧
      after = intents.modify intentId fun row => row.bind now taskId voucherId := by
  unfold bindPaymentIntent at bound
  split at bound
  · cases bound
  · next row found =>
      split_ifs at bound with closed
      exact ⟨row, found, by simpa using closed, (Except.ok.inj bound).symm⟩

theorem findByKey_mem {intents : Intents} {idempotencyKey intentId : String}
    {row : PaymentIntent} (found : findByKey intents idempotencyKey = some (intentId, row)) :
    intents.get intentId = some row :=
  OrderedTable.mem_rows_iff.mp (List.mem_of_find?_eq_some found)

/-- A step changes an intent that is there, and one that was not there is made by a request that
repeats no key. -/
theorem step_intent (step : perform isdigit world action = some next) (intentId : String)
    (row : PaymentIntent) :
    (world.intents.get intentId = some row → ∃ after, next.intents.get intentId = some after ∧
      Change next.now intentId row action after) ∧
    (world.intents.get intentId = none → next.intents.get intentId = some row →
      ∃ now terms expiresAt idempotencyKey taskId voucherId,
        action = .create now next.now intentId terms expiresAt idempotencyKey taskId voucherId ∧
        findByKey world.intents idempotencyKey = none ∧
        row = newIntent now next.now terms expiresAt idempotencyKey taskId voucherId) := by
  cases action with
  | create now later drawn terms expiresAt idempotencyKey taskId voucherId =>
      simp only [perform, Option.ite_none_right_eq_some] at step
      obtain ⟨-, created⟩ := step
      obtain ⟨⟨intents, answer, replayed⟩, accepted, rfl⟩ := Option.map_eq_some_iff.mp created
      rcases createPaymentIntent_ok (toOption_eq_some.mp accepted) with
        ⟨-, rfl, -⟩ | ⟨-, -, missing, fresh, -, rfl⟩
      · exact ⟨fun there => ⟨row, there, .kept _⟩, fun absent there => by simp [absent] at there⟩
      · constructor
        · intro there
          have different : intentId ≠ drawn := fun same => by simp [← same, there] at fresh
          exact ⟨row, by simpa [OrderedTable.get_set, different] using there, .kept _⟩
        · intro absent there
          by_cases here : intentId = drawn
          · subst here
            obtain rfl : _ = row := by simpa [OrderedTable.get_set] using there
            exact ⟨now, terms, expiresAt, idempotencyKey, taskId, voucherId, rfl, missing, rfl⟩
          · simp [OrderedTable.get_set, here, absent] at there
  | bind now bound taskId voucherId =>
      simp only [perform, Option.ite_none_right_eq_some] at step
      obtain ⟨-, made⟩ := step
      obtain ⟨intents, accepted, rfl⟩ := Option.map_eq_some_iff.mp made
      obtain ⟨stored, found, unclosed, rfl⟩ := bindPaymentIntent_ok (toOption_eq_some.mp accepted)
      simp only [OrderedTable.get_modify]
      refine ⟨fun there => ?_, fun absent there => by simp [absent] at there⟩
      by_cases here : intentId = bound
      · subst here
        obtain rfl : row = stored := Option.some.inj (there.symm.trans found)
        exact ⟨_, by rw [there, Option.map_some, if_pos rfl], .bound taskId voucherId unclosed⟩
      · exact ⟨row, by rw [there, Option.map_some, if_neg here], .kept _⟩
  | settle now taskId =>
      simp only [perform, Option.ite_none_right_eq_some, Option.some.injEq] at step
      obtain ⟨-, rfl⟩ := step
      simp only [markIntentsSettledForTask, OrderedTable.get_map]
      refine ⟨fun there => ?_, fun absent there => by simp [absent] at there⟩
      by_cases linked : row.linkedTo taskId = true
      · exact ⟨_, by rw [there, Option.map_some, if_pos linked], .settled taskId linked⟩
      · exact ⟨row, by rw [there, Option.map_some, if_neg linked], .kept _⟩
  | expire now =>
      simp only [perform, Option.ite_none_right_eq_some, Option.some.injEq] at step
      obtain ⟨-, rfl⟩ := step
      simp only [expireStaleIntents, OrderedTable.get_map]
      refine ⟨fun there => ?_, fun absent there => by simp [absent] at there⟩
      by_cases stale : row.stale now = true
      · exact ⟨_, by rw [there, Option.map_some, if_pos stale], .expired stale⟩
      · exact ⟨row, by rw [there, Option.map_some, if_neg stale], .kept _⟩

/-! ## What is asked of the operations -/

/-- The moves of the lifecycle. -/
inductive Moves : Status → Status → Prop
  | stays (status : Status) : Moves status status
  | authorizes : Moves .created .authorized
  | settles : Moves .authorized .settled
  | expiresCreated : Moves .created .expired
  | expiresAuthorized : Moves .authorized .expired

def Linked (world : World) (intentId taskId : String) : Prop :=
  ∃ row, world.intents.get intentId = some row ∧ row.taskId = some taskId ∧ taskId ≠ ""

/-- One of the operations linked the intent, which had no task before, to the task. -/
def FirstLinked (isdigit : String → Bool) (start : World) (actions : List Action)
    (intentId taskId : String) : Prop :=
  ∃ before action after middle state, actions = before ++ action :: after ∧
    (system isdigit).Run start before middle ∧ (system isdigit).Step middle action state ∧
    (∀ other, ¬Linked middle intentId other) ∧ Linked state intentId taskId

/-- What is asked of a step after a run. -/
structure Lawful (isdigit : String → Bool) (start : World) (actions : List Action)
    (world : World) (action : Action) (next : World) : Prop where
  moves : ∀ intentId row, world.intents.get intentId = some row →
    ∃ after, next.intents.get intentId = some after ∧ Moves row.status after.status
  begins : ∀ intentId row, world.intents.get intentId = none →
    next.intents.get intentId = some row → Moves .created row.status ∧ row.isOpen = true
  timely : ∀ intentId after, next.intents.get intentId = some after →
    after.status = .authorized ∨ after.status = .settled →
    (world.intents.get intentId).map PaymentIntent.status ≠ some after.status →
    next.now ≤ after.expiresAt
  final : ∀ intentId row, world.intents.get intentId = some row → row.closed = true →
    next.intents.get intentId = some row
  settledFor : ∀ intentId row after, world.intents.get intentId = some row →
    next.intents.get intentId = some after → row.status ≠ .settled → after.status = .settled →
    ∃ now taskId, action = .settle now taskId ∧
      FirstLinked isdigit start actions intentId taskId
  replay : ∀ now later intentId terms expiresAt idempotencyKey taskId voucherId answer after,
    action = .create now later intentId terms expiresAt idempotencyKey taskId voucherId →
    createPaymentIntent isdigit world.intents now later intentId terms expiresAt idempotencyKey
      taskId voucherId = .ok (after, answer, true) →
    ∃ row, world.intents.get answer = some row ∧ row.terms = terms

/-- The requests in which nothing goes wrong: a repeated key comes with the same terms; an intent
is authorized or settled before it expires; a task is bound to an intent that has no other; and
no settlement is of the empty task. -/
def Sound (world : World) : Action → Prop
  | .create _ later _ terms expiresAt idempotencyKey taskId voucherId =>
      (∀ intentId row, findByKey world.intents idempotencyKey = some (intentId, row) →
        row.terms = terms) ∧
      (findByKey world.intents idempotencyKey = none →
        truthy taskId = true ∨ truthy voucherId = true → later ≤ expiresAt)
  | .bind now intentId taskId voucherId => ∀ row, world.intents.get intentId = some row →
      (row.status = .created → truthy taskId = true ∨ truthy voucherId = true →
        now ≤ row.expiresAt) ∧
      (truthy taskId = true → truthy row.taskId = true → row.taskId = taskId)
  | .settle now taskId => ∀ intentId row, world.intents.get intentId = some row →
      row.linkedTo taskId = true → taskId ≠ "" ∧ now ≤ row.expiresAt
  | .expire _ => True

/-! ## The invariant -/

/-- An intent without task and voucher is the only kind that is not authorized. -/
def Tidy (row : PaymentIntent) : Prop :=
  row.status = .created → truthy row.taskId = false ∧ truthy row.voucherId = false

section NewIntent

variable (now later : Time) (terms : Terms) (expiresAt : Time) (idempotencyKey : String)
  (taskId voucherId : Option String)

theorem newIntent_status :
    (newIntent now later terms expiresAt idempotencyKey taskId voucherId).status =
      if truthy taskId || truthy voucherId then .authorized else .created := by
  unfold newIntent
  dsimp only
  split_ifs <;> rfl

theorem newIntent_expiresAt :
    (newIntent now later terms expiresAt idempotencyKey taskId voucherId).expiresAt =
      expiresAt := by
  unfold newIntent
  dsimp only
  split_ifs <;> rfl

theorem newIntent_tidy :
    Tidy (newIntent now later terms expiresAt idempotencyKey taskId voucherId) := by
  intro created
  rw [newIntent_status] at created
  split at created
  · cases created
  · next unlinked =>
      rw [Bool.or_eq_true, not_or, Bool.not_eq_true, Bool.not_eq_true] at unlinked
      unfold newIntent
      simp [unlinked]

end NewIntent

/-- A bound row is authorized if it has a task or a voucher then, and is as before if not. -/
theorem bind_status (row : PaymentIntent) (now : Time) (taskId voucherId : Option String) :
    (row.bind now taskId voucherId).status =
      if truthy (row.bind now taskId voucherId).taskId ||
        truthy (row.bind now taskId voucherId).voucherId then .authorized else row.status := by
  unfold PaymentIntent.bind
  dsimp only
  split_ifs <;> simp_all

theorem bind_expiresAt (row : PaymentIntent) (now : Time) (taskId voucherId : Option String) :
    (row.bind now taskId voucherId).expiresAt = row.expiresAt := by
  unfold PaymentIntent.bind
  dsimp only
  split_ifs <;> rfl

theorem bind_taskId (row : PaymentIntent) (now : Time) (taskId voucherId : Option String) :
    (row.bind now taskId voucherId).taskId = if truthy taskId then taskId else row.taskId := by
  unfold PaymentIntent.bind
  dsimp only
  split_ifs <;> rfl

theorem bind_voucherId (row : PaymentIntent) (now : Time) (taskId voucherId : Option String) :
    (row.bind now taskId voucherId).voucherId =
      if truthy voucherId then voucherId else row.voucherId := by
  unfold PaymentIntent.bind
  dsimp only
  split_ifs <;> rfl

theorem isOpen_iff {row : PaymentIntent} :
    row.isOpen = true ↔ row.status = .created ∨ row.status = .authorized := by
  simp [PaymentIntent.isOpen]

theorem isOpen_iff_not_closed {row : PaymentIntent} : row.isOpen = true ↔ row.closed = false := by
  unfold PaymentIntent.isOpen PaymentIntent.closed
  cases row.status <;> decide

theorem truthy_some {text : String} : truthy (some text) = true ↔ text ≠ "" := by
  simp [truthy]

theorem Change.tidy {time : Time} {intentId : String} {row after : PaymentIntent}
    (change : Change time intentId row action after) (tidy : Tidy row) : Tidy after := by
  cases change with
  | kept => exact tidy
  | bound taskId voucherId =>
      intro created
      rw [bind_status] at created
      split at created
      · cases created
      · next unlinked =>
          rwa [Bool.or_eq_true, not_or, Bool.not_eq_true, Bool.not_eq_true] at unlinked
  | settled => exact fun created => by cases created
  | expired => exact fun created => by cases created

theorem step_tidy (step : perform isdigit world action = some next)
    (tidy : ∀ intentId row, world.intents.get intentId = some row → Tidy row)
    (intentId : String) (row : PaymentIntent) (there : next.intents.get intentId = some row) :
    Tidy row := by
  cases before : world.intents.get intentId with
  | none =>
      obtain ⟨now, terms, expiresAt, idempotencyKey, taskId, voucherId, -, -, rfl⟩ :=
        (step_intent step _ _).2 before there
      exact newIntent_tidy _ _ _ _ _ _ _
  | some old =>
      obtain ⟨after, found, change⟩ := (step_intent step _ _).1 before
      obtain rfl := Option.some.inj (found.symm.trans there)
      exact change.tidy (tidy intentId old before)

theorem run_tidy {start : World} {actions : List Action} (initial : (system isdigit).Init start)
    (run : (system isdigit).Run start actions world) (intentId : String) (row : PaymentIntent)
    (there : world.intents.get intentId = some row) : Tidy row := by
  induction run generalizing intentId row with
  | nil =>
      rw [show start.intents = .empty from initial] at there
      cases there
  | snoc _ step ih => exact step_tidy step ih intentId row there

/-! ## Tasks -/

/-- A linked intent stays with its task. -/
theorem step_linked (step : perform isdigit world action = some next) (sound : Sound world action)
    {intentId taskId : String} (linked : Linked world intentId taskId) :
    Linked next intentId taskId := by
  obtain ⟨row, there, task, named⟩ := linked
  obtain ⟨after, found, change⟩ := (step_intent step _ _).1 there
  refine ⟨after, found, ?_, named⟩
  cases change with
  | kept => exact task
  | bound given voucherId =>
      rw [bind_taskId]
      split
      · next nonempty =>
          have already : truthy row.taskId = true := by rw [task, truthy_some]; exact named
          rw [← (sound row there).2 nonempty already, task]
      · exact task
  | settled => exact task
  | expired => exact task

theorem Linked.unique {intentId taskId other : String} (linked : Linked world intentId taskId)
    (also : Linked world intentId other) : taskId = other := by
  obtain ⟨row, there, task, -⟩ := linked
  obtain ⟨row', there', task', -⟩ := also
  obtain rfl := Option.some.inj (there.symm.trans there')
  exact Option.some.inj (task.symm.trans task')

/-- The task of an intent is the one it was first linked to. -/
theorem run_firstLinked {start : World} {actions : List Action}
    (initial : (system isdigit).Init start)
    (run : ((system isdigit).restrict Sound).Run start actions world) {intentId taskId : String}
    (linked : Linked world intentId taskId) :
    FirstLinked isdigit start actions intentId taskId := by
  induction run with
  | nil =>
      obtain ⟨row, there, -⟩ := linked
      rw [show start.intents = .empty from initial] at there
      cases there
  | @snoc actions middle finish action run step ih =>
      by_cases before : ∃ other, Linked middle intentId other
      · obtain ⟨other, already⟩ := before
        obtain rfl := linked.unique (step_linked step.1 step.2 already)
        obtain ⟨earlier, made, later, from', state, rfl, rest⟩ := ih already
        exact ⟨earlier, made, later ++ [action], from', state, by simp, rest⟩
      · exact ⟨actions, action, [], middle, finish, rfl, run.of_restrict, step.1,
          fun other already => before ⟨other, already⟩, linked⟩

/-! ## The lifecycle -/

theorem Change.moves {time : Time} {intentId : String} {row after : PaymentIntent}
    (change : Change time intentId row action after)
    (there : world.intents.get intentId = some row) (sound : Sound world action)
    (tidy : Tidy row) : Moves row.status after.status := by
  cases change with
  | kept => exact .stays _
  | bound taskId voucherId unclosed =>
      rw [bind_status]
      split
      · rcases isOpen_iff.mp (isOpen_iff_not_closed.mpr unclosed) with status | status <;>
          rw [status]
        · exact .authorizes
        · exact .stays _
      · exact .stays _
  | settled taskId linked =>
      obtain ⟨named, -⟩ := sound intentId row there linked
      obtain ⟨task, unclosed⟩ : row.taskId = some taskId ∧ row.isOpen = true := by
        simpa [PaymentIntent.linkedTo] using linked
      rcases isOpen_iff.mp unclosed with status | status
      · have unlinked := (tidy status).1
        rw [task, ← Bool.not_eq_true, truthy_some] at unlinked
        exact absurd named unlinked
      · rw [status]
        exact .settles
  | expired stale =>
      obtain ⟨unclosed, -⟩ : row.isOpen = true ∧ row.expiresAt < time := by
        simpa [PaymentIntent.stale] using stale
      rcases isOpen_iff.mp unclosed with status | status <;> rw [status]
      · exact .expiresCreated
      · exact .expiresAuthorized

theorem Change.timely {time : Time} {intentId : String} {row after : PaymentIntent}
    (change : Change time intentId row action after)
    (there : world.intents.get intentId = some row) (sound : Sound world action)
    (tidy : Tidy row) (reached : after.status = .authorized ∨ after.status = .settled)
    (new : row.status ≠ after.status) : time ≤ after.expiresAt := by
  cases change with
  | kept => exact absurd rfl new
  | bound taskId voucherId unclosed =>
      rw [bind_expiresAt]
      rw [bind_status] at new
      split at new
      · next linked =>
          have status : row.status = .created :=
            (isOpen_iff.mp (isOpen_iff_not_closed.mpr unclosed)).resolve_right new
          obtain ⟨noTask, noVoucher⟩ := tidy status
          refine (sound row there).1 status ?_
          rw [bind_taskId, bind_voucherId] at linked
          by_cases task : truthy taskId = true
          · exact .inl task
          · refine .inr ?_
            by_contra voucher
            simp [task, voucher, noTask, noVoucher] at linked
      · exact absurd rfl new
  | settled taskId linked => exact (sound intentId row there linked).2
  | expired => rcases reached with status | status <;> cases status

theorem Change.final {time : Time} {intentId : String} {row after : PaymentIntent}
    (change : Change time intentId row action after) (closed : row.closed = true) :
    after = row := by
  have shut : ¬row.isOpen = true := by rw [isOpen_iff_not_closed, closed]; decide
  cases change with
  | kept => rfl
  | bound _ _ unclosed => rw [closed] at unclosed; cases unclosed
  | settled taskId linked => simp [PaymentIntent.linkedTo, shut] at linked
  | expired stale => simp [PaymentIntent.stale, shut] at stale

/-- As long as the requests are sound, intents live by the lifecycle. -/
theorem payment_intent_lifecycle {start : World} {actions : List Action}
    (initial : (system isdigit).Init start)
    (run : ((system isdigit).restrict Sound).Run start actions world)
    (step : ((system isdigit).restrict Sound).Step world action next) :
    Lawful isdigit start actions world action next := by
  have tidy := run_tidy initial run.of_restrict
  obtain ⟨performed, sound⟩ := step
  refine ⟨?_, ?_, ?_, ?_, ?_, ?_⟩
  · intro intentId row there
    obtain ⟨after, found, change⟩ := (step_intent performed _ _).1 there
    exact ⟨after, found, change.moves there sound (tidy intentId row there)⟩
  · intro intentId row absent there
    obtain ⟨now, terms, expiresAt, idempotencyKey, taskId, voucherId, -, -, rfl⟩ :=
      (step_intent performed _ _).2 absent there
    rw [isOpen_iff, newIntent_status]
    split
    · exact ⟨.authorizes, .inr rfl⟩
    · exact ⟨.stays _, .inl rfl⟩
  · intro intentId after there reached new
    cases before : world.intents.get intentId with
    | none =>
        obtain ⟨now, terms, expiresAt, idempotencyKey, taskId, voucherId, rfl, missing, rfl⟩ :=
          (step_intent performed _ _).2 before there
        rw [newIntent_expiresAt]
        refine sound.2 missing ?_
        rw [newIntent_status] at reached
        by_contra unlinked
        simp [unlinked] at reached
    | some row =>
        obtain ⟨after', found, change⟩ := (step_intent performed _ _).1 before
        obtain rfl := Option.some.inj (found.symm.trans there)
        refine change.timely before sound (tidy intentId row before) reached fun same => new ?_
        rw [before, Option.map_some, same]
  · intro intentId row there closed
    obtain ⟨after, found, change⟩ := (step_intent performed _ _).1 there
    rw [found, change.final closed]
  · intro intentId row after there found unsettled settled
    obtain ⟨after', found', change⟩ := (step_intent performed _ _).1 there
    obtain rfl := Option.some.inj (found'.symm.trans found)
    cases change with
    | kept => exact absurd settled unsettled
    | bound taskId voucherId =>
        rw [bind_status] at settled
        split at settled
        · cases settled
        · exact absurd settled unsettled
    | settled taskId linked =>
        obtain ⟨named, -⟩ := sound intentId row there linked
        obtain ⟨task, -⟩ : row.taskId = some taskId ∧ row.isOpen = true := by
          simpa [PaymentIntent.linkedTo] using linked
        exact ⟨_, taskId, rfl, run_firstLinked initial run ⟨row, there, task, named⟩⟩
    | expired => cases settled
  · rintro now later intentId terms expiresAt idempotencyKey taskId voucherId answer after rfl
      created
    rcases createPaymentIntent_ok created with ⟨-, -, row, found⟩ | ⟨fresh, -⟩
    · exact ⟨row, findByKey_mem found, sound.1 answer row found⟩
    · cases fresh

end Rules

namespace Demo

def isdigit (text : String) : Bool := text ≠ "" && text.toList.all Char.isDigit

def terms : Terms := ⟨"order-1", "buyer", "seller", "USDC", "500", 1, "policy"⟩

abbrev Scene := Library.Scene (perform isdigit) {}

def empty : Scene := ⟨[], rfl⟩

/-- An intent that expires at time 10. -/
def create : Action := .create 0 0 "pi_1" terms 10 "key-1" none none

def made : Scene := empty.next create (by decide +kernel)

def early : Action := .bind 5 "pi_1" (some "task-1") none

def late : Action := .bind 20 "pi_1" (some "task-1") none

/-- The same key for a tenth of the amount. -/
def cheaper : Action := .create 5 5 "pi_2" { terms with amount := "50" } 10 "key-1" none none

def bound : Scene := made.next early (by decide +kernel)

def lateBound : Scene := made.next late (by decide +kernel)

def repeated : Scene := made.next cheaper (by decide +kernel)

def intent : PaymentIntent := newIntent 0 0 terms 10 "key-1" none none

theorem made_intent : made.world.intents.get "pi_1" = some intent := by decide +kernel

theorem made_run : ((system isdigit).restrict Sound).Run {} [create] made.world := by
  refine TransitionSystem.Run.single ⟨empty.performed create _, fun _ _ found => ?_, fun _ => ?_⟩
  · cases found
  · simp [truthy]

end Demo

theorem payment_intent_lifecycle_demo :
    Lawful Demo.isdigit {} [Demo.create] Demo.made.world Demo.early Demo.bound.world := by
  refine payment_intent_lifecycle rfl Demo.made_run ⟨Demo.made.performed Demo.early _, ?_⟩
  intro row there
  obtain rfl := Option.some.inj (Demo.made_intent.symm.trans there)
  exact ⟨fun _ _ => by decide, fun _ linked => absurd linked (by decide)⟩

/-- An intent is authorized after it has expired; a repeated key is answered with an intent for
another amount. -/
theorem payment_intent_unlawful :
    ¬Lawful Demo.isdigit {} [Demo.create] Demo.made.world Demo.late Demo.lateBound.world ∧
    ¬Lawful Demo.isdigit {} [Demo.create] Demo.made.world Demo.cheaper Demo.repeated.world := by
  refine ⟨fun lawful => ?_, fun lawful => ?_⟩
  · have authorized : Demo.lateBound.world.intents.get "pi_1" =
        some (Demo.intent.bind 20 (some "task-1") none) := by decide +kernel
    have before : (Demo.made.world.intents.get "pi_1").map PaymentIntent.status ≠
        some .authorized := by decide +kernel
    have clock : Demo.lateBound.world.now = 20 := by decide +kernel
    have early := lawful.timely "pi_1" _ authorized (.inl (by decide)) before
    rw [clock] at early
    exact absurd early (by decide)
  · have replayed : (createPaymentIntent Demo.isdigit Demo.made.world.intents 5 5 "pi_2"
        { Demo.terms with amount := "50" } 10 "key-1" none none).map
          (fun created => (created.2.1, created.2.2)) = .ok ("pi_1", true) := by decide +kernel
    cases created : createPaymentIntent Demo.isdigit Demo.made.world.intents 5 5 "pi_2"
        { Demo.terms with amount := "50" } 10 "key-1" none none with
    | error failure => rw [created] at replayed; cases replayed
    | ok result =>
        obtain ⟨after, answer, flag⟩ := result
        rw [created] at replayed
        obtain ⟨rfl, rfl⟩ : answer = "pi_1" ∧ flag = true := by simpa [Except.map] using replayed
        obtain ⟨row, there, same⟩ :=
          lawful.replay 5 5 "pi_2" _ 10 "key-1" none none _ after rfl created
        obtain rfl := Option.some.inj (Demo.made_intent.symm.trans there)
        exact absurd same (by decide)

end TrustChain.PaymentIntents
