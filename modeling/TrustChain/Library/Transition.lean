import Mathlib.Data.List.Induction

/-!
# Transition systems and their runs

A system has initial states and labelled steps. A run is the list of the labels
taken, oldest first, between two states. The rules below are the ones every
development over runs repeats: an invariant is proved for one step and holds of
every reachable state; a run can be cut anywhere; restricting the steps restricts
the runs.
-/

namespace TrustChain.Library

/-- Initial states, and steps labelled by the action taken. -/
structure TransitionSystem (σ α : Type*) where
  Init : σ → Prop
  Step : σ → α → σ → Prop

namespace TransitionSystem

variable {σ α : Type*} (system : TransitionSystem σ α)

/-- `Run start actions finish`: the actions, in order, lead from `start` to `finish`. -/
inductive Run (start : σ) : List α → σ → Prop
  | nil : Run start [] start
  | snoc {actions : List α} {middle finish : σ} {action : α} :
      Run start actions middle → system.Step middle action finish →
      Run start (actions ++ [action]) finish

/-- A state some run from an initial state ends in. -/
def Reachable (state : σ) : Prop :=
  ∃ start actions, system.Init start ∧ system.Run start actions state

/-- Every action has at most one outcome. -/
def Deterministic : Prop :=
  ∀ state action next other, system.Step state action next → system.Step state action other →
    next = other

/-- The same system with only the steps that `allowed` admits. -/
def restrict (allowed : σ → α → Prop) : TransitionSystem σ α where
  Init := system.Init
  Step state action next := system.Step state action next ∧ allowed state action

/-- Some state that the run passes through, its ends included, satisfies `property`. -/
def Visits (start : σ) (actions : List α) (finish : σ) (property : σ → Prop) : Prop :=
  ∃ before after middle, actions = before ++ after ∧ system.Run start before middle ∧
    system.Run middle after finish ∧ property middle

variable {system} {start middle finish state : σ} {actions before after : List α} {action : α}

namespace Run

theorem single (step : system.Step start action finish) :
    system.Run start [action] finish :=
  (Run.nil : system.Run start [] start).snoc step

theorem append (first : system.Run start before middle)
    (second : system.Run middle after finish) :
    system.Run start (before ++ after) finish := by
  induction second with
  | nil => simpa using first
  | snoc _ step ih =>
      rw [← List.append_assoc]
      exact ih.snoc step

/-- A run of `before ++ after` passes through a state between its two parts. -/
theorem split (run : system.Run start (before ++ after) finish) :
    ∃ middle, system.Run start before middle ∧ system.Run middle after finish := by
  induction after using List.reverseRecOn generalizing finish with
  | nil => exact ⟨finish, by simpa using run, .nil⟩
  | append_singleton after action ih =>
      rw [← List.append_assoc] at run
      generalize whole : before ++ after ++ [action] = actions at run
      cases run with
      | nil => simp at whole
      | snoc earlier step =>
          obtain ⟨rfl, sameAction⟩ := List.append_inj' whole rfl
          obtain rfl : action = _ := by simpa using sameAction
          obtain ⟨middle, first, second⟩ := ih earlier
          exact ⟨middle, first, second.snoc step⟩

theorem nil_eq (run : system.Run start [] finish) : finish = start := by
  generalize none : ([] : List α) = actions at run
  cases run with
  | nil => rfl
  | snoc => simp at none

/-- The first step of a nonempty run. -/
theorem uncons (run : system.Run start (action :: after) finish) :
    ∃ middle, system.Step start action middle ∧ system.Run middle after finish := by
  have whole : system.Run start ([action] ++ after) finish := run
  obtain ⟨middle, first, second⟩ := whole.split
  refine ⟨middle, ?_, second⟩
  generalize one : [action] = actions at first
  cases first with
  | nil => simp at one
  | @snoc earlierActions _ _ taken earlier step =>
      obtain ⟨rfl, rfl⟩ : earlierActions = [] ∧ taken = action := by
        simpa [List.append_eq_singleton_iff] using one.symm
      rwa [nil_eq earlier] at step

theorem cons (step : system.Step start action middle)
    (rest : system.Run middle after finish) : system.Run start (action :: after) finish :=
  (single step).append rest

/-- A restricted run is a run whose every step was admitted. -/
theorem of_restrict {allowed : σ → α → Prop}
    (run : (system.restrict allowed).Run start actions finish) :
    system.Run start actions finish := by
  induction run with
  | nil => exact .nil
  | snoc _ step ih => exact ih.snoc step.1

/-- A run all of whose actions are admitted in every state is a restricted run. -/
theorem restrict {allowed : σ → α → Prop} (run : system.Run start actions finish)
    (admitted : ∀ action ∈ actions, ∀ state, allowed state action) :
    (system.restrict allowed).Run start actions finish := by
  induction run with
  | nil => exact .nil
  | snoc _ step ih =>
      refine (ih fun action member => ?_).snoc ⟨step, ?_⟩
      · exact admitted action (List.mem_append_left _ member)
      · exact admitted _ (List.mem_append_right _ (List.mem_singleton_self _)) _

/-- Where every action has at most one outcome, so has every list of actions. -/
theorem unique
    (deterministic : system.Deterministic)
    (run : system.Run start actions finish) {other : σ} (again : system.Run start actions other) :
    finish = other := by
  induction run generalizing other with
  | nil => exact again.nil_eq.symm
  | snoc _ step ih =>
      obtain ⟨middle, earlier, last⟩ := again.split
      obtain rfl := ih earlier
      obtain ⟨after, taken, rest⟩ := last.uncons
      obtain rfl := rest.nil_eq
      exact deterministic _ _ _ _ step taken

/-- A longer run is a restricted one if its last step is admitted as well. -/
theorem restrict_snoc {allowed : σ → α → Prop}
    (deterministic : system.Deterministic)
    (run : system.Run start actions middle) (step : system.Step middle action finish) :
    (system.restrict allowed).Run start (actions ++ [action]) finish ↔
      (system.restrict allowed).Run start actions middle ∧ allowed middle action := by
  constructor
  · intro restricted
    obtain ⟨between, earlier, last⟩ := restricted.split
    obtain rfl := unique deterministic run earlier.of_restrict
    obtain ⟨after, taken, -⟩ := last.uncons
    exact ⟨earlier, taken.2⟩
  · rintro ⟨earlier, admitted⟩
    exact earlier.snoc ⟨step, admitted⟩

end Run

/-- Follow a list of actions with a function that performs them, as long as it can. -/
def follow (perform : σ → α → Option σ) (start : σ) (actions : List α) : Option σ :=
  actions.foldlM perform start

theorem follow_append (perform : σ → α → Option σ) (start : σ) (actions more : List α) :
    follow perform start (actions ++ more) =
      (follow perform start actions).bind fun middle => follow perform middle more := by
  simp [follow, List.foldlM_append]

theorem Run.of_follow {perform : σ → α → Option σ}
    (sound : ∀ state action next, perform state action = some next → system.Step state action next)
    (followed : follow perform start actions = some finish) :
    system.Run start actions finish := by
  induction actions generalizing start with
  | nil =>
      obtain rfl : start = finish := by simpa [follow] using followed
      exact .nil
  | cons action rest ih =>
      simp only [follow, List.foldlM_cons, Option.bind_eq_bind, Option.bind_eq_some_iff] at followed
      obtain ⟨middle, performed, later⟩ := followed
      exact Run.cons (sound start action middle performed) (ih later)

namespace Reachable

theorem init (initial : system.Init state) : system.Reachable state :=
  ⟨state, [], initial, .nil⟩

theorem step (reachable : system.Reachable state) (taken : system.Step state action finish) :
    system.Reachable finish := by
  obtain ⟨start, actions, initial, run⟩ := reachable
  exact ⟨start, actions ++ [action], initial, run.snoc taken⟩

theorem run (reachable : system.Reachable state) (taken : system.Run state actions finish) :
    system.Reachable finish := by
  obtain ⟨start, earlier, initial, first⟩ := reachable
  exact ⟨start, earlier ++ actions, initial, first.append taken⟩

/-- An invariant holds initially and is preserved by every step taken from a
reachable state, so it holds of every reachable state. -/
@[elab_as_elim]
theorem invariant {property : σ → Prop} (initially : ∀ state, system.Init state → property state)
    (preserved : ∀ state action next, system.Reachable state → property state →
      system.Step state action next → property next)
    (reachable : system.Reachable state) : property state := by
  obtain ⟨start, actions, initial, run⟩ := reachable
  induction run with
  | nil => exact initially _ initial
  | snoc earlier step ih => exact preserved _ _ _ ⟨start, _, initial, earlier⟩ ih step

theorem of_restrict {allowed : σ → α → Prop}
    (reachable : (system.restrict allowed).Reachable state) : system.Reachable state := by
  obtain ⟨start, actions, initial, run⟩ := reachable
  exact ⟨start, actions, initial, run.of_restrict⟩

end Reachable

/-- What holds at the start and is preserved from reachable states holds along a run. -/
@[elab_as_elim]
theorem Run.preserves_reachable {property : σ → Prop}
    (preserved : ∀ state action next, system.Reachable state → property state →
      system.Step state action next → property next)
    (run : system.Run start actions finish) (reachable : system.Reachable start)
    (initially : property start) : property finish := by
  induction run with
  | nil => exact initially
  | snoc earlier step ih => exact preserved _ _ _ (reachable.run earlier) ih step

/-- What admitted steps preserve holds along every run that takes only admitted steps. -/
@[elab_as_elim]
theorem Run.preserves_restricted {property : σ → Prop} {allowed : σ → α → Prop}
    (preserved : ∀ state action next, system.Reachable state → property state →
      system.Step state action next → allowed state action → property next)
    (run : (system.restrict allowed).Run start actions finish) (reachable : system.Reachable start)
    (initially : property start) : property finish := by
  induction run with
  | nil => exact initially
  | snoc earlier step ih =>
      exact preserved _ _ _ (reachable.run earlier.of_restrict) ih step.1 step.2

/-! ## States a run passes through -/

namespace Visits

variable {property : σ → Prop}

/-- A run of admitted steps passes through the same states as the run without the restriction. -/
theorem restrict {allowed : σ → α → Prop}
    (deterministic : system.Deterministic)
    (visits : system.Visits start actions finish property)
    (restricted : (system.restrict allowed).Run start actions finish) :
    (system.restrict allowed).Visits start actions finish property := by
  obtain ⟨before, after, visited, rfl, first, -, holds⟩ := visits
  obtain ⟨middle, earlier, later⟩ := restricted.split
  obtain rfl := Run.unique deterministic first earlier.of_restrict
  exact ⟨before, after, visited, rfl, earlier, later, holds⟩

/-- The last state of a run is one it passes through. -/
theorem last (run : system.Run start actions finish) (holds : property finish) :
    system.Visits start actions finish property :=
  ⟨actions, [], finish, (List.append_nil _).symm, run, .nil, holds⟩

theorem snoc (visits : system.Visits start actions middle property)
    (step : system.Step middle action finish) :
    system.Visits start (actions ++ [action]) finish property := by
  obtain ⟨before, after, visited, rfl, first, second, holds⟩ := visits
  exact ⟨before, after ++ [action], visited, List.append_assoc _ _ _, first, second.snoc step,
    holds⟩

/-- What is false at the start, and comes about only where `property` holds or held, is
preceded by `property`. -/
theorem of_onset (late : σ → Prop)
    (onset : ∀ state action next, system.Reachable state → system.Step state action next →
      late next → late state ∨ property state ∨ property next)
    (reachable : system.Reachable start) (initially : ¬late start)
    (run : system.Run start actions finish) (afterwards : late finish) :
    system.Visits start actions finish property := by
  induction run with
  | nil => exact absurd afterwards initially
  | snoc earlier step ih =>
      rcases onset _ _ _ (reachable.run earlier) step afterwards with before | here | now
      · exact (ih before).snoc step
      · exact (last earlier here).snoc step
      · exact last (earlier.snoc step) now

end Visits

/-! ## Steps a run takes -/

/-- Some step of the run satisfies `property`. -/
def Takes (system : TransitionSystem σ α) (start : σ) (actions : List α) (finish : σ)
    (property : σ → α → σ → Prop) : Prop :=
  ∃ before action after state next, actions = before ++ action :: after ∧
    system.Run start before state ∧ system.Step state action next ∧
    system.Run next after finish ∧ property state action next

namespace Takes

variable {property : σ → α → σ → Prop}

theorem last (run : system.Run start actions middle) (step : system.Step middle action finish)
    (holds : property middle action finish) :
    system.Takes start (actions ++ [action]) finish property :=
  ⟨actions, action, [], middle, finish, rfl, run, step, .nil, holds⟩

theorem snoc (takes : system.Takes start actions middle property)
    (step : system.Step middle action finish) :
    system.Takes start (actions ++ [action]) finish property := by
  obtain ⟨before, taken, after, state, next, rfl, first, here, second, holds⟩ := takes
  refine ⟨before, taken, after ++ [action], state, next, ?_, first, here, second.snoc step, holds⟩
  simp

/-- What is false at the start, and comes about only by a step that satisfies `property`, is
preceded by such a step. -/
theorem of_onset (late : σ → Prop)
    (onset : ∀ state action next, system.Reachable state → system.Step state action next →
      late next → late state ∨ property state action next)
    (reachable : system.Reachable start) (initially : ¬late start)
    (run : system.Run start actions finish) (afterwards : late finish) :
    system.Takes start actions finish property := by
  induction run with
  | nil => exact absurd afterwards initially
  | snoc earlier step ih =>
      rcases onset _ _ _ (reachable.run earlier) step afterwards with before | now
      · exact (ih before).snoc step
      · exact last earlier step now

theorem mono {weaker : σ → α → σ → Prop} (takes : system.Takes start actions finish property)
    (weakens : ∀ state action next after, system.Step state action next →
      system.Run next after finish → property state action next → weaker state action next) :
    system.Takes start actions finish weaker := by
  obtain ⟨before, taken, after, state, next, whole, first, here, second, holds⟩ := takes
  exact ⟨before, taken, after, state, next, whole, first, here, second,
    weakens state taken next after here second holds⟩

end Takes

/-! ## Runs of the admitted steps -/

/-- If the admitted steps from good states are those that lead to good states and are not bad
themselves, a run takes only admitted steps exactly if it passes through good states alone and
takes no bad step. -/
theorem Run.restrict_iff_kept {good : σ → Prop} {bad : σ → α → σ → Prop} {allowed : σ → α → Prop}
    (deterministic : system.Deterministic)
    (exact : ∀ state action next, system.Reachable state → good state →
      system.Step state action next → (allowed state action ↔ good next ∧ ¬bad state action next))
    (reachable : system.Reachable start) (initially : good start)
    (run : system.Run start actions finish) :
    (system.restrict allowed).Run start actions finish ↔
      ¬system.Visits start actions finish (fun state => ¬good state) ∧
        ¬system.Takes start actions finish bad := by
  have kept : ∀ {actions finish}, (system.restrict allowed).Run start actions finish →
      good finish := fun restricted => by
    refine restricted.preserves_restricted ?_ reachable initially
    intro state action next reached here step admitted
    exact ((exact state action next reached here step).mp admitted).1
  constructor
  · intro restricted
    constructor
    · intro visits
      obtain ⟨before, after, visited, -, earlier, -, fails⟩ :=
        visits.restrict deterministic restricted
      exact fails (kept earlier)
    · rintro ⟨before, taken, after, state, next, rfl, first, here, -, fails⟩
      obtain ⟨middle, earlier, later⟩ := restricted.split
      obtain rfl := Run.unique deterministic first earlier.of_restrict
      obtain ⟨_, step, -⟩ := later.uncons
      exact ((exact state taken next (reachable.run first) (kept earlier) here).mp step.2).2 fails
  · rintro ⟨unvisited, untaken⟩
    induction run with
    | nil => exact .nil
    | snoc earlier step ih =>
        have here := ih (fun visits => unvisited (visits.snoc step))
          fun takes => untaken (takes.snoc step)
        refine here.snoc ⟨step, (exact _ _ _ (reachable.run earlier) (kept here) step).mpr ⟨?_, ?_⟩⟩
        · exact not_not.mp fun fails => unvisited (.last (earlier.snoc step) fails)
        · exact fun fails => untaken (.last earlier step fails)

/-- If the admitted steps are those that lead from states without `property` to such states, a
run takes only admitted steps exactly if it passes through no state with the property. -/
theorem Visits.restrict_iff_not {property : σ → Prop} {allowed : σ → α → Prop}
    (deterministic : system.Deterministic)
    (exact : ∀ state action next, system.Reachable state → ¬property state →
      system.Step state action next → (allowed state action ↔ ¬property next))
    (reachable : system.Reachable start) (initially : ¬property start)
    (run : system.Run start actions finish) :
    (system.restrict allowed).Run start actions finish ↔
      ¬system.Visits start actions finish property := by
  have kept : ∀ state action next, system.Reachable state → ¬property state →
      system.Step state action next → (allowed state action ↔ ¬property next ∧ ¬False) := by
    simpa using exact
  have exactly := run.restrict_iff_kept deterministic kept reachable initially
  simpa [Takes] using exactly

/-- If the admitted steps are those that do not satisfy `property`, a run takes only admitted
steps exactly if it takes none with the property. -/
theorem Takes.restrict_iff_not {property : σ → α → σ → Prop} {allowed : σ → α → Prop}
    (deterministic : system.Deterministic)
    (exact : ∀ state action next, system.Reachable state → system.Step state action next →
      (allowed state action ↔ ¬property state action next))
    (reachable : system.Reachable start) (run : system.Run start actions finish) :
    (system.restrict allowed).Run start actions finish ↔
      ¬system.Takes start actions finish property := by
  have kept : ∀ state action next, system.Reachable state → True →
      system.Step state action next →
      (allowed state action ↔ True ∧ ¬property state action next) := by
    simpa using exact
  have exactly := run.restrict_iff_kept deterministic kept reachable trivial
  simpa [Visits] using exactly

end TransitionSystem

/-! ## Performing a list of actions -/

/-- Actions that can all be performed, one after the other, from `start`. -/
structure Scene {σ α : Type*} (perform : σ → α → Option σ) (start : σ) where
  actions : List α
  possible : (TransitionSystem.follow perform start actions).isSome

namespace Scene

variable {σ α : Type*} {perform : σ → α → Option σ} {start : σ} {system : TransitionSystem σ α}

def world (scene : Scene perform start) : σ :=
  (TransitionSystem.follow perform start scene.actions).get scene.possible

def next (scene : Scene perform start) (action : α)
    (possible : (TransitionSystem.follow perform start (scene.actions ++ [action])).isSome) :
    Scene perform start :=
  ⟨scene.actions ++ [action], possible⟩

theorem run
    (sound : ∀ state action next, perform state action = some next → system.Step state action next)
    (scene : Scene perform start) : system.Run start scene.actions scene.world :=
  .of_follow sound (Option.some_get scene.possible).symm

theorem performed (scene : Scene perform start) (action : α)
    (possible : (TransitionSystem.follow perform start (scene.actions ++ [action])).isSome) :
    perform scene.world action = some (scene.next action possible).world := by
  obtain ⟨finish, played⟩ := Option.isSome_iff_exists.mp possible
  have there : (scene.next action possible).world = finish := Option.get_of_eq_some _ played
  rw [there]
  rw [TransitionSystem.follow_append, Option.bind_eq_some_iff] at played
  obtain ⟨middle, first, second⟩ := played
  have here : scene.world = middle := Option.get_of_eq_some _ first
  rw [here]
  simpa [TransitionSystem.follow] using second

end Scene

end TrustChain.Library
