import TrustChain.Billing.Draining

/-!
# When checks force the anchoring

A check that finds a new force-anchor state forces the anchoring, and does not remember the
state. So every check that reads the state forces the anchoring again, until the state changes.
-/

namespace TrustChain.Billing

open Library Function

/-! ## Checks and the states they read -/

/-- The bridge with, for every task, the checks that have read its state since it last changed,
and those of them that took the forced path. -/
structure Watch where
  world : World := {}
  seen : TaskId → Nat := fun _ => 0
  forced : TaskId → Nat := fun _ => 0

/-- The task whose state a check reads. -/
def Action.reads (world : World) : Action → Option TaskId
  | .resume index _ =>
      match world.coroutines[index]? with
      | some (.readState task _) => some task
      | _ => none
  | _ => none

/-- The action leaves its coroutine on the forced path. -/
def Action.forced (next : World) : Action → Bool
  | .resume index _ =>
      match next.coroutines[index]? with
      | some (.fetchForced _) => true
      | _ => false
  | _ => false

/-- The task whose state the action changes. -/
def Action.changes (world : World) : Action → Option TaskId
  | .setState task state => if state = world.bridge.sync.getTaskState task then none else some task
  | _ => none

/-- A change of state starts the counts of its task again. -/
def Watch.after (watch : Watch) (action : Action) (next : World) : Watch :=
  match action.changes watch.world, action.reads watch.world with
  | some task, _ =>
      { world := next, seen := update watch.seen task 0, forced := update watch.forced task 0 }
  | none, some task =>
      { world := next
        seen := update watch.seen task (watch.seen task + 1)
        forced := update watch.forced task (watch.forced task + (action.forced next).toNat) }
  | none, none => { watch with world := next }

def watched (policy : AnchoringPolicy) : TransitionSystem Watch Action where
  Init watch := watch = {}
  Step watch action next :=
    ∃ world, perform policy watch.world action = some world ∧ next = watch.after action world

/-- Between two changes of a task's state, the forced path has been taken twice. -/
def Watch.ForcedTwice (watch : Watch) : Prop := ∃ task, 1 < watch.forced task

/-- A check that reads a force-anchor state is the first one since the state has changed. -/
def Watch.Spaced (policy : AnchoringPolicy) (watch : Watch) (action : Action) : Prop :=
  ∀ task ∈ action.reads watch.world,
    watch.world.bridge.sync.getTaskState task ∈ policy.forceAnchorStates → watch.seen task = 0

instance (policy : AnchoringPolicy) (watch : Watch) : DecidablePred (watch.Spaced policy) :=
  fun action => inferInstanceAs (Decidable (∀ task ∈ action.reads watch.world, _ → _))

section Watched

variable {policy : AnchoringPolicy} {watch next : Watch} {action : Action} {world : World}
  {task : TaskId}

/-- What a step changes of the states and of the counts. -/
inductive Noted (policy : AnchoringPolicy) (watch : Watch) (action : Action) : Watch → Prop
  /-- The state of a task changes. -/
  | changed {next : Watch} (task : TaskId) (reads : action.reads watch.world = none)
      (states : ∀ other, other ≠ task → next.world.bridge.sync.getTaskState other =
        watch.world.bridge.sync.getTaskState other)
      (seen : next.seen = update watch.seen task 0)
      (forced : next.forced = update watch.forced task 0) : Noted policy watch action next
  /-- A check reads the state of a task. -/
  | read {next : Watch} (task : TaskId) (object : Nat)
      (reads : action.reads watch.world = some task) (sync : next.world.bridge = watch.world.bridge)
      (seen : next.seen = update watch.seen task (watch.seen task + 1))
      (forced : next.forced = update watch.forced task (watch.forced task +
        (policy.forces (watch.world.bridge.sync.getTaskState task)
          (watch.world.bridge.sync.getTaskState task ≠
            (watch.world.bridge.object object).lastState)).toNat)) :
      Noted policy watch action next
  /-- Anything else. -/
  | quiet {next : Watch} (reads : action.reads watch.world = none)
      (states : ∀ task, next.world.bridge.sync.getTaskState task =
        watch.world.bridge.sync.getTaskState task)
      (seen : next.seen = watch.seen) (forced : next.forced = watch.forced) :
      Noted policy watch action next

theorem resume_states (policy : AnchoringPolicy) (bridge : AnchoringBridge) (now : ℚ)
    (coroutine : Coroutine) (task : TaskId) :
    (bridge.resume policy now coroutine).1.sync.getTaskState task =
      bridge.sync.getTaskState task := by
  have effect := resumed policy bridge now coroutine
  generalize (bridge.resume policy now coroutine).1 = next at effect ⊢
  generalize (bridge.resume policy now coroutine).2 = later at effect
  cases effect with
  | quietly sync => rw [sync]
  | passes _ sync => rw [sync]
  | marks _ sync =>
      rw [sync]
      rfl

theorem getTaskState_setState (sync : SimpleMemReceiptSync) (task other : TaskId) (state : String) :
    (sync.setState task state).getTaskState other =
      if other = task then state else sync.getTaskState other := by
  by_cases same : other = task
  · subst same
    simp [SimpleMemReceiptSync.getTaskState, SimpleMemReceiptSync.setState]
  · simp [SimpleMemReceiptSync.getTaskState, SimpleMemReceiptSync.setState, same]

theorem noted (performed : perform policy watch.world action = some world) :
    Noted policy watch action (watch.after action world) := by
  cases action with
  | setState task state =>
      cases performed
      by_cases same : state = watch.world.bridge.sync.getTaskState task
      · refine .quiet rfl (fun other => ?_) ?_ ?_
        · simp only [Watch.after, Action.changes, Action.reads, if_pos same, getTaskState_setState]
          split
          · rename_i here
            rw [here, same]
          · rfl
        · simp only [Watch.after, Action.changes, Action.reads, if_pos same]
        · simp only [Watch.after, Action.changes, Action.reads, if_pos same]
      · refine .changed task rfl (fun other apart => ?_) ?_ ?_
        · simp only [Watch.after, Action.changes, if_neg same, getTaskState_setState, if_neg apart]
        · simp only [Watch.after, Action.changes, if_neg same]
        · simp only [Watch.after, Action.changes, if_neg same]
  | addReceipt task receipt =>
      cases performed
      exact .quiet rfl (fun _ => rfl) rfl rfl
  | forceAnchor task =>
      cases performed
      exact .quiet rfl (fun _ => rfl) rfl rfl
  | checkAndAnchor task =>
      cases performed
      refine .quiet rfl (fun other => ?_) rfl rfl
      have same := checkAndAnchor_sync watch.world.bridge task
      exact congrArg (fun sync => sync.getTaskState other) same
  | resume index now =>
      obtain ⟨coroutine, there, running, rfl⟩ := perform_resume performed
      have inside := (List.getElem?_eq_some_iff.mp there).1
      cases coroutine with
      | readState task object =>
          have reads : (Action.resume index now).reads watch.world = some task := by
            simp [Action.reads, there]
          refine .read task object reads ?_ ?_ ?_
          · simp only [Watch.after, Action.changes, reads, World.advance, AnchoringBridge.resume]
            split <;> rfl
          · simp only [Watch.after, Action.changes, reads]
          · simp only [Watch.after, Action.changes, reads, Action.forced, World.advance,
              List.getElem?_set_self inside, AnchoringBridge.resume]
            cases policy.forces (watch.world.bridge.sync.getTaskState task)
              (watch.world.bridge.sync.getTaskState task ≠
                (watch.world.bridge.object object).lastState) <;> rfl
      | returned => exact absurd rfl running
      | _ =>
          have reads : (Action.resume index now).reads watch.world = none := by
            simp [Action.reads, there]
          refine .quiet reads (fun other => ?_) ?_ ?_
          · simp only [Watch.after, Action.changes, reads]
            exact resume_states policy watch.world.bridge now _ other
          · simp only [Watch.after, Action.changes, reads]
          · simp only [Watch.after, Action.changes, reads]

/-- What a step changes of the counts of one task. -/
theorem Noted.counts (noted : Noted policy watch action next) (task : TaskId) :
    (next.seen task = 0 ∧ next.forced task = 0) ∨
    (∃ object, action.reads watch.world = some task ∧ next.world.bridge = watch.world.bridge ∧
      next.seen task = watch.seen task + 1 ∧
      next.forced task = watch.forced task +
        (policy.forces (watch.world.bridge.sync.getTaskState task)
          (watch.world.bridge.sync.getTaskState task ≠
            (watch.world.bridge.object object).lastState)).toNat) ∨
    next.world.bridge.sync.getTaskState task = watch.world.bridge.sync.getTaskState task ∧
      next.seen task = watch.seen task ∧ next.forced task = watch.forced task := by
  cases noted with
  | changed other reads states seen forced =>
      rw [seen, forced]
      by_cases same : task = other
      · subst same
        exact .inl ⟨update_self _ _ _, update_self _ _ _⟩
      · exact .inr (.inr ⟨states task same, update_of_ne same _ _, update_of_ne same _ _⟩)
  | read other object reads sync seen forced =>
      rw [seen, forced]
      by_cases same : task = other
      · subst same
        exact .inr (.inl ⟨object, reads, sync, update_self _ _ _, update_self _ _ _⟩)
      · exact .inr (.inr ⟨by rw [sync], update_of_ne same _ _, update_of_ne same _ _⟩)
  | quiet reads states seen forced =>
      exact .inr (.inr ⟨states task, congrFun seen task, congrFun forced task⟩)

/-! ### What the bridge remembers -/

/-- No state object remembers a force-anchor state, and no check is about to store one. -/
structure Unforced (policy : AnchoringPolicy) (world : World) : Prop where
  objects : ∀ index, (world.bridge.object index).lastState ∉ policy.forceAnchorStates
  checks : ∀ task object state changed,
    .fetchChecked task object state changed ∈ world.coroutines → state ∉ policy.forceAnchorStates

theorem object_append (bridge : AnchoringBridge) (index : Nat) :
    ({ bridge with objects := bridge.objects ++ [{}] } : AnchoringBridge).object index =
      bridge.object index := by
  simp only [AnchoringBridge.object, List.getD_eq_getElem?_getD]
  by_cases inside : index < bridge.objects.length
  · rw [List.getElem?_append_left inside]
  · have beyond := Nat.le_of_not_lt inside
    rw [List.getElem?_append_right beyond, List.getElem?_eq_none beyond]
    cases index - bridge.objects.length <;> rfl

theorem stateOf_object (bridge : AnchoringBridge) (task : TaskId) (index : Nat) :
    (bridge.stateOf task).1.object index = bridge.object index := by
  rw [AnchoringBridge.stateOf]
  split
  · rfl
  · exact object_append bridge index

/-- Storing an object that remembers no force-anchor state. -/
theorem Unforced.set {policy : AnchoringPolicy} {objects : List AnchoringState}
    {state : AnchoringState}
    (unforced : ∀ index, (objects.getD index {}).lastState ∉ policy.forceAnchorStates)
    (stored : state.lastState ∉ policy.forceAnchorStates) (object index : Nat) :
    ((objects.set object state).getD index {}).lastState ∉ policy.forceAnchorStates := by
  rw [List.getD_eq_getElem?_getD, List.getElem?_set]
  split
  · split
    · exact stored
    · rename_i outside
      have beyond := unforced object
      rwa [List.getD_eq_getElem?_getD, List.getElem?_eq_none (Nat.le_of_not_lt outside)] at beyond
  · rw [← List.getD_eq_getElem?_getD]
    exact unforced index

/-- A check that is not forced goes on with a state that is no force-anchor state. -/
theorem not_mem_of_not_forces {state last : String} (unforced : last ∉ policy.forceAnchorStates)
    (passes : ¬policy.forces state (state ≠ last) = true) : state ∉ policy.forceAnchorStates := by
  intro member
  have changed : state ≠ last := fun same => unforced (same ▸ member)
  simp [AnchoringPolicy.forces, member, changed] at passes

/-- What a coroutine does when it is resumed. -/
theorem Unforced.resume {bridge : AnchoringBridge} (now : ℚ) {coroutine : Coroutine}
    (objects : ∀ index, (bridge.object index).lastState ∉ policy.forceAnchorStates)
    (check : ∀ task object state changed, coroutine = .fetchChecked task object state changed →
      state ∉ policy.forceAnchorStates) :
    (∀ index, ((bridge.resume policy now coroutine).1.object index).lastState ∉
        policy.forceAnchorStates) ∧
      ∀ task object state changed,
        (bridge.resume policy now coroutine).2 = .fetchChecked task object state changed →
          state ∉ policy.forceAnchorStates := by
  cases coroutine with
  | readState task object =>
      simp only [AnchoringBridge.resume]
      split
      · exact ⟨objects, fun _ _ _ _ same => Coroutine.noConfusion same⟩
      · rename_i passes
        refine ⟨objects, fun _ _ _ _ same => ?_⟩
        cases same
        exact not_mem_of_not_forces (objects object) passes
  | fetchChecked task object state changed =>
      have stored := check task object state changed rfl
      simp only [AnchoringBridge.resume]
      split
      · refine ⟨Unforced.set objects stored object, fun _ _ _ _ same => ?_⟩
        rw [doAnchor] at same
        split at same <;> cases same
      · exact ⟨Unforced.set objects stored object, fun _ _ _ _ same => Coroutine.noConfusion same⟩
  | fetchForced task =>
      refine ⟨objects, fun _ _ _ _ same => ?_⟩
      simp only [AnchoringBridge.resume, doAnchor] at same
      split at same <;> cases same
  | append task batch =>
      refine ⟨fun index => ?_, fun _ _ _ _ same => Coroutine.noConfusion same⟩
      simp only [AnchoringBridge.resume, stateOf_object]
      exact objects index
  | mark task batch object =>
      refine ⟨fun index => ?_, fun _ _ _ _ same => Coroutine.noConfusion same⟩
      apply Unforced.set objects
      exact objects object
  | returned => exact ⟨objects, fun _ _ _ _ same => Coroutine.noConfusion same⟩

theorem Unforced.step (unforced : Unforced policy watch.world)
    (performed : perform policy watch.world action = some world) : Unforced policy world := by
  have started : ∀ {coroutine : Coroutine}, (∀ task object state changed,
        coroutine ≠ .fetchChecked task object state changed) →
      ∀ task object state changed, .fetchChecked task object state changed ∈
        watch.world.coroutines ++ [coroutine] → state ∉ policy.forceAnchorStates := by
    intro coroutine other task object state changed member
    rcases List.mem_append.mp member with old | new
    · exact unforced.checks task object state changed old
    · exact absurd (List.mem_singleton.mp new).symm (other task object state changed)
  cases action with
  | addReceipt task receipt =>
      cases performed
      exact ⟨unforced.objects, unforced.checks⟩
  | setState task state =>
      cases performed
      exact ⟨unforced.objects, unforced.checks⟩
  | checkAndAnchor task =>
      cases performed
      refine ⟨fun index => ?_, started fun _ _ _ _ => nofun⟩
      have same := stateOf_object watch.world.bridge task index
      exact same ▸ unforced.objects index
  | forceAnchor task =>
      cases performed
      exact ⟨unforced.objects, started fun _ _ _ _ => nofun⟩
  | resume index now =>
      obtain ⟨coroutine, there, -, rfl⟩ := perform_resume performed
      obtain ⟨objects, check⟩ := Unforced.resume now unforced.objects
        fun task object state changed same =>
          unforced.checks task object state changed (same ▸ List.mem_of_getElem? there)
      refine ⟨objects, fun task object state changed member => ?_⟩
      rcases List.mem_or_eq_of_mem_set member with old | new
      · exact unforced.checks task object state changed old
      · exact check task object state changed new.symm

/-! ### The counts -/

/-- In a force-anchor state, every check that has read it was forced. -/
structure Watch.Forcing (policy : AnchoringPolicy) (watch : Watch) : Prop where
  unforced : Unforced policy watch.world
  all : ∀ task, watch.world.bridge.sync.getTaskState task ∈ policy.forceAnchorStates →
    watch.forced task = watch.seen task

theorem Unforced.forces (unforced : Unforced policy watch.world) (object : Nat) {state : String}
    (member : state ∈ policy.forceAnchorStates) :
    policy.forces state (state ≠ (watch.world.bridge.object object).lastState) = true := by
  by_contra passes
  exact not_mem_of_not_forces (unforced.objects object) passes member

theorem Watch.Forcing.step (forcing : watch.Forcing policy)
    (step : (watched policy).Step watch action next) : next.Forcing policy := by
  obtain ⟨world, performed, rfl⟩ := step
  have unforced : Unforced policy (watch.after action world).world := by
    have later := forcing.unforced.step performed
    rw [Watch.after]
    split <;> exact later
  refine ⟨unforced, fun task member => ?_⟩
  rcases (noted performed).counts task with
    ⟨seen, forced⟩ | ⟨object, -, same, seen, forced⟩ | ⟨state, seen, forced⟩
  · rw [seen, forced]
  · rw [same] at member
    rw [seen, forced, forcing.all task member, forcing.unforced.forces object member]
    rfl
  · rw [seen, forced]
    exact forcing.all task (state ▸ member)

theorem forcing_of_reachable (named : "" ∉ policy.forceAnchorStates)
    (reachable : (watched policy).Reachable watch) : watch.Forcing policy := by
  refine reachable.invariant ?_ ?_
  · intro watch initial
    have empty : watch = {} := initial
    rw [empty]
    refine ⟨⟨fun index => ?_, by simp⟩, fun _ _ => rfl⟩
    simpa [AnchoringBridge.object] using named
  · intro watch action next _ forcing step
    exact forcing.step step

/-- No more checks are forced than there have been. -/
theorem forced_le_seen (reachable : (watched policy).Reachable watch) (task : TaskId) :
    watch.forced task ≤ watch.seen task := by
  revert task
  refine reachable.invariant ?_ ?_
  · intro watch initial task
    have empty : watch = {} := initial
    rw [empty]
  · intro watch action next _ le step task
    obtain ⟨world, performed, rfl⟩ := step
    rcases (noted performed).counts task with
      ⟨seen, forced⟩ | ⟨object, -, -, seen, forced⟩ | ⟨-, seen, forced⟩
    · rw [seen, forced]
    · rw [seen, forced]
      exact Nat.add_le_add (le task) (Bool.toNat_le _)
    · rw [seen, forced]
      exact le task

theorem watched_deterministic (watch : Watch) (action : Action) (next other : Watch)
    (step : (watched policy).Step watch action next)
    (again : (watched policy).Step watch action other) : next = other := by
  obtain ⟨world, performed, rfl⟩ := step
  obtain ⟨_, performedAgain, rfl⟩ := again
  cases performed.symm.trans performedAgain
  rfl

/-- A step from a state without a second forced check leads to such a state if it is spaced. -/
theorem Watch.Spaced.once (reachable : (watched policy).Reachable watch)
    (once : ¬watch.ForcedTwice) (step : (watched policy).Step watch action next)
    (spaced : watch.Spaced policy action) : ¬next.ForcedTwice := by
  rintro ⟨task, twice⟩
  have before : watch.forced task ≤ 1 := Nat.le_of_not_lt fun more => once ⟨task, more⟩
  obtain ⟨world, performed, rfl⟩ := step
  rcases (noted performed).counts task with
    ⟨-, forced⟩ | ⟨object, reads, -, -, forced⟩ | ⟨-, -, forced⟩
  · rw [forced] at twice
    exact absurd twice (by decide)
  · rw [forced] at twice
    have le := forced_le_seen reachable task
    by_cases member : watch.world.bridge.sync.getTaskState task ∈ policy.forceAnchorStates
    · have first := spaced task reads member
      have bit := Bool.toNat_le (policy.forces (watch.world.bridge.sync.getTaskState task)
        (watch.world.bridge.sync.getTaskState task ≠
          (watch.world.bridge.object object).lastState))
      omega
    · simp [AnchoringPolicy.forces, member] at twice
      omega
  · rw [forced] at twice
    omega

/-- A step that is not spaced forces a check once more. -/
theorem Watch.Spaced.of_once (forcing : watch.Forcing policy)
    (step : (watched policy).Step watch action next) (once : ¬next.ForcedTwice) :
    watch.Spaced policy action := by
  intro task reading member
  obtain ⟨world, performed, rfl⟩ := step
  have le : (watch.after action world).forced task ≤ 1 :=
    Nat.le_of_not_lt fun more => once ⟨task, more⟩
  cases noted performed with
  | changed other reads => cases reads.symm.trans reading
  | read other object reads sync seen forced =>
      cases reads.symm.trans reading
      rw [forced, update_self, forcing.all task member, forcing.unforced.forces object member] at le
      exact Nat.le_zero.mp (Nat.le_of_succ_le_succ le)
  | quiet reads => cases reads.symm.trans reading

/-- In a run whose checks of force-anchor states are spaced, none of them is forced twice. -/
theorem forced_once_of_spaced {actions : List Action}
    (run : ((watched policy).restrict (Watch.Spaced policy)).Run {} actions watch) :
    ¬watch.ForcedTwice := by
  refine run.preserves_restricted ?_ (.init rfl) ?_
  · intro watch action next reachable once step spaced
    exact spaced.once reachable once step
  · rintro ⟨task, twice⟩
    exact absurd twice (Nat.not_lt_zero 1)

/-- A run forces no check twice exactly if its checks of force-anchor states are spaced. -/
theorem spaced_iff_forced_once {actions : List Action} (named : "" ∉ policy.forceAnchorStates)
    (run : (watched policy).Run {} actions watch) :
    ((watched policy).restrict (Watch.Spaced policy)).Run {} actions watch ↔
      ¬(watched policy).Visits {} actions watch Watch.ForcedTwice := by
  refine TransitionSystem.Visits.restrict_iff_not watched_deterministic ?_ (.init rfl) ?_ run
  · intro watch action next reachable once step
    constructor
    · intro spaced
      exact spaced.once reachable once step
    · intro kept
      exact .of_once (forcing_of_reachable named reachable) step kept
  · rintro ⟨task, twice⟩
    exact absurd twice (Nat.not_lt_zero 1)

end Watched

/-- What `force_anchor` drains, and when checks force the anchoring again. -/
theorem force_anchoring (policy : AnchoringPolicy) :
    (∀ (task : TaskId) (world final : World) (times : List ℚ),
      (anchoring policy).Run world
        (.forceAnchor task :: times.map (.resume world.coroutines.length)) final →
      final.coroutines[world.coroutines.length]? = some .returned →
      (final.bridge.sync.getUnanchoredReceipts task 100 = [] ↔
        world.bridge.sync.Covered policy task)) ∧
    (∀ (task : TaskId) (world next final : World) (index : Nat) (now : ℚ) (actions : List Action),
      world.coroutines[index]? = some (.fetchForced task) →
      world.bridge.sync.Covered policy task →
      perform policy world (.resume index now) = some next →
      (anchoring policy).Run next actions final →
      (∀ receipt, .addReceipt task receipt ∉ actions) →
      final.coroutines[index]? = some .returned →
      final.bridge.sync.getUnanchoredReceipts task 100 = []) ∧
    (∀ (actions : List Action) (watch : Watch),
      ((watched policy).restrict (Watch.Spaced policy)).Run {} actions watch →
      ¬watch.ForcedTwice) ∧
    ("" ∉ policy.forceAnchorStates → ∀ (actions : List Action) (watch : Watch),
      (watched policy).Run {} actions watch →
      (((watched policy).restrict (Watch.Spaced policy)).Run {} actions watch ↔
        ¬(watched policy).Visits {} actions watch Watch.ForcedTwice)) := by
  refine ⟨?_, ?_, ?_, ?_⟩
  · intro task world final times run returned
    exact drained_iff run returned
  · intro task world next final index now actions fetching covered performed run quiet returned
    exact drained_of_covered fetching covered performed run quiet returned
  · intro actions watch run
    exact forced_once_of_spaced run
  · intro named actions watch run
    exact spaced_iff_forced_once named run

namespace Demo

/-- Receipts with different ids. -/
def receipts (number : Nat) : List Action :=
  (List.range number).map fun index => .addReceipt task ⟨some (toString index)⟩

/-- As many receipts as a batch holds. -/
def tenReceipts : Scene (perform {}) {} where
  actions := receipts 10
  possible := by decide +kernel

def forcedTen : Scene (perform {}) tenReceipts.world where
  actions := forced 0
  possible := by decide +kernel

/-- One receipt more than a batch holds. -/
def elevenReceipts : Scene (perform {}) {} where
  actions := receipts 11
  possible := by decide +kernel

def forcedAlone : Scene (perform {}) elevenReceipts.world where
  actions := forced 0
  possible := by decide +kernel

def performWatched (watch : Watch) (action : Action) : Option Watch :=
  (perform {} watch.world action).map (watch.after action)

theorem performWatched_step (watch : Watch) (action : Action) (next : Watch)
    (performed : performWatched watch action = some next) :
    (watched {}).Step watch action next := by
  obtain ⟨world, done, same⟩ := Option.map_eq_some_iff.mp performed
  exact ⟨world, done, same.symm⟩

/-- Two checks of a funded task. -/
def fundedTwice : Scene performWatched {} where
  actions := [.setState task "funded", .checkAndAnchor task, .resume 0 0,
    .checkAndAnchor task, .resume 1 0]
  possible := by decide +kernel

/-- One check of each state, of which two are force-anchor states. -/
def spacedOut : Scene (fun watch action =>
    if Watch.Spaced {} watch action then performWatched watch action else none) {} where
  actions := [.setState task "funded", .checkAndAnchor task, .resume 0 0, .resume 0 0,
    .setState task "working", .checkAndAnchor task, .resume 1 0, .resume 1 0,
    .setState task "funded", .checkAndAnchor task, .resume 2 0]
  possible := by decide +kernel

end Demo

theorem force_anchoring_default :
    Demo.forcedTen.world.bridge.sync.getUnanchoredReceipts Demo.task 100 = [] ∧
      Demo.spacedOut.world.forced Demo.task = 1 ∧ ¬Demo.spacedOut.world.ForcedTwice := by
  obtain ⟨drains, -, once, -⟩ := force_anchoring {}
  refine ⟨?_, by decide +kernel, once Demo.spacedOut.actions _ (Demo.spacedOut.run ?_)⟩
  · refine (drains Demo.task Demo.tenReceipts.world _ [0, 0, 0] ?_ rfl).mpr (by decide +kernel)
    exact Demo.forcedTen.run fun _ _ _ performed => performed
  · intro watch action next performed
    split at performed
    case isTrue spaced => exact ⟨Demo.performWatched_step watch action next performed, spaced⟩
    case isFalse => cases performed

/-- Of eleven receipts one is left, and a state that does not change is forced twice. -/
theorem not_force_anchoring :
    (∃ times : List ℚ, (anchoring {}).Run Demo.elevenReceipts.world
        (.forceAnchor Demo.task ::
          times.map (.resume Demo.elevenReceipts.world.coroutines.length)) Demo.forcedAlone.world ∧
      Demo.forcedAlone.world.coroutines[Demo.elevenReceipts.world.coroutines.length]? =
        some .returned ∧
      Demo.forcedAlone.world.bridge.sync.getUnanchoredReceipts Demo.task 100 ≠ []) ∧
    ∃ actions watch, (watched {}).Run {} actions watch ∧ watch.ForcedTwice := by
  refine ⟨⟨[0, 0, 0], ?_, rfl, by decide +kernel⟩,
    Demo.fundedTwice.actions, Demo.fundedTwice.world, ?_, Demo.task, ?_⟩
  · exact Demo.forcedAlone.run fun _ _ _ performed => performed
  · exact Demo.fundedTwice.run Demo.performWatched_step
  · decide +kernel

end TrustChain.Billing
