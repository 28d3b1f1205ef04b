import TrustChain.SecurityPolicy.Reigns

/-!
# Governance along runs

What holds at every moment of a run: the quorum of a request that is applied, the one active
policy, and the policy that a rollback restores.
-/

namespace TrustChain.SecurityPolicy

open Library

/-- The call rolls back without a policy to roll back to, and is not refused. -/
def Action.RollsBack (action : Action) (world : World) : Prop :=
  (∃ operation, action.call.operation world.center = some operation ∧ operation.Unnamed) ∧
    (dispatch world.center action).toOption.isSome

/-- The policy that was active before the active one is active again. -/
def Restores (world next : World) : Prop :=
  ∃ current previous earlier,
    world.chronicle.reigns.map Prod.fst = current :: previous :: earlier ∧
      activePolicy world.center.policies = some current ∧
      activePolicy next.center.policies = some previous

/-- How policies are governed at a moment, and by the calls that `allowed` admits there. -/
structure World.Governed (world : World) (allowed : World → Action → Prop) : Prop where
  oneActive : AtMostOne world.center.policies .active
  oneCandidate : AtMostOne world.center.policies .candidate
  neverWithout : world.chronicle.reigns ≠ [] →
    ∃ policyId row, world.center.policies.get policyId = some row ∧ row.status = .active
  appliedOnce : world.chronicle.applied.Nodup
  quorum : ∀ action next requestId, system.Step world action next →
    next.chronicle.applied = requestId :: world.chronicle.applied → Quorum world requestId
  restored : ∀ action next, allowed world action → action.RollsBack world →
    system.Step world action next → Restores world next
  back : ∀ first second middle next, allowed world first → first.RollsBack world →
    system.Step world first middle → allowed middle second → second.RollsBack middle →
    system.Step middle second next →
    activePolicy next.center.policies = activePolicy world.center.policies

variable {world next : World} {action : Action} {actions : List Action} {start : World}
  {requestId : RequestId}

theorem step_iff : system.Step world action next ↔
    action.Timely world ∧ next = world.after action := by
  change perform world action = some next ↔ _
  unfold perform
  split
  case isTrue timely => simp [timely, eq_comm]
  case isFalse late => simp [late]

/-- A step that succeeds stores what the call makes of the tables; one that raises stores nothing. -/
theorem after_cases (world : World) (action : Action) :
    (∃ center, dispatch world.center action = .ok center ∧ world.after action =
      ⟨center, action.appliedAt, world.chronicle.record action center⟩) ∨
    world.after action = { world with clock := action.appliedAt } := by
  unfold World.after
  cases dispatch world.center action with
  | ok center => exact .inl ⟨center, rfl, rfl⟩
  | error => exact .inr rfl

/-- What is kept whatever is called. -/
structure World.Lawful (world : World) : Prop where
  oneActive : AtMostOne world.center.policies .active
  oneCandidate : AtMostOne world.center.policies .candidate
  counted : world.Counted

theorem World.Lawful.init (initial : system.Init start) : start.Lawful := by
  obtain ⟨tables, chronicle⟩ := initial
  refine ⟨?_, ?_, ⟨?_, ?_, ?_, ?_⟩⟩
  · rw [tables]
    intro first second row row' there
    cases there
  · rw [tables]
    intro first second row row' there
    cases there
  · rw [tables, chronicle]
    intro requestId approverId
    rfl
  · rw [tables]
    intro requestId row there
    cases there
  · rw [chronicle]
    intro requestId done
    cases done
  · rw [chronicle]
    exact List.nodup_nil

theorem World.Lawful.step (lawful : world.Lawful) (step : system.Step world action next) :
    next.Lawful := by
  obtain ⟨-, rfl⟩ := step_iff.mp step
  rcases after_cases world action with ⟨center, ran, stored⟩ | stored
  · have effect := dispatch_effect ran
    rw [stored]
    refine ⟨lawful.oneActive.effect effect ?_ ?_, lawful.oneCandidate.effect effect ?_ ?_,
      lawful.counted.after ran action.appliedAt⟩
    all_goals exact SecurityThresholdPolicyStatus.noConfusion
  · rw [stored]
    exact ⟨lawful.oneActive, lawful.oneCandidate, ⟨lawful.counted.latest, lawful.counted.approved,
      lawful.counted.applied, lawful.counted.once⟩⟩

/-- A request is applied when it is approved. -/
theorem World.Lawful.quorum (lawful : world.Lawful) (step : system.Step world action next)
    (applied : next.chronicle.applied = requestId :: world.chronicle.applied) :
    Quorum world requestId := by
  obtain ⟨-, rfl⟩ := step_iff.mp step
  have grown : (world.after action).chronicle.applied ≠ world.chronicle.applied := by
    rw [applied]
    exact List.cons_ne_self _ _
  rcases after_cases world action with ⟨center, ran, stored⟩ | stored
  · rw [stored] at applied grown
    obtain ⟨call, now, appliedAt⟩ := action
    cases call with
    | apply id =>
        obtain ⟨row, operation, policies, there, approved, -⟩ :=
          applySecurityPolicyChangeRequest_ok ran
        obtain rfl : id = requestId := (List.cons.inj applied).1
        exact lawful.counted.quorum there approved
    | createPolicy | operate | createChange | review => exact absurd rfl grown
  · rw [stored] at grown
    exact absurd rfl grown

def World.Succeeds (world : World) : Prop :=
  Succession world.center.policies world.chronicle.reigns world.clock

theorem World.Succeeds.init (initial : system.Init start) : start.Succeeds := by
  obtain ⟨tables, chronicle⟩ := initial
  unfold World.Succeeds
  rw [tables, chronicle]
  refine ⟨?_, ?_, ?_, List.Pairwise.nil, ?_, .nil⟩
  · intro policyId row there
    cases there
  · intro reign inside
    cases inside
  · intro policyId row there
    cases there
  · intro reign inside
    cases inside

theorem World.Succeeds.step (succeeds : world.Succeeds) (step : system.Step world action next)
    (sound : action.Sound world) : next.Succeeds := by
  obtain ⟨timely, rfl⟩ := step_iff.mp step
  rcases after_cases world action with ⟨center, ran, stored⟩ | stored
  · have succession := (dispatch_effect ran).succession succeeds timely.1 sound
    rw [stored]
    exact succession.later timely.2.le
  · rw [stored]
    exact Succession.later succeeds (timely.1.trans timely.2).le

/-- A sound rollback ends the reign of the active policy, and the one before it reigns again. -/
theorem World.Succeeds.rollback (succeeds : world.Succeeds) (sound : action.Sound world)
    (rollsBack : action.RollsBack world) (step : system.Step world action next) :
    ∃ current previous earlier,
      world.chronicle.reigns.map Prod.fst = current :: previous :: earlier ∧
        next.chronicle.reigns.map Prod.fst = previous :: current :: previous :: earlier := by
  obtain ⟨⟨operation, asked, unnamed⟩, done⟩ := rollsBack
  obtain ⟨center, ran⟩ := Option.isSome_iff_exists.mp done
  rw [toOption_eq_some] at ran
  obtain ⟨timely, rfl⟩ := step_iff.mp step
  have stored : world.after action =
      ⟨center, action.appliedAt, world.chronicle.record action center⟩ := by
    rw [World.after, ran]
  obtain ⟨policyId, loaded, rolloutPercent, chosen, there, percent, written⟩ :=
    (dispatch_effect ran).of_operation asked
  have inactive := (sound operation asked).inactive policyId chosen loaded there
  have begun := (Succession.promote succeeds there inactive percent timely.1 written).2
    unnamed.newStatus
  obtain ⟨current, earlier, known⟩ :=
    Succession.previous succeeds (sound operation asked) unnamed chosen
  refine ⟨current, policyId, earlier, known, ?_⟩
  rw [stored]
  exact (congrArg (List.map Prod.fst) begun).trans (congrArg (policyId :: ·) known)

/-- A policy that has its status alone is the newest that has it. -/
theorem newest_withStatus {policies : Policies} {status : SecurityThresholdPolicyStatus}
    {policyId : PolicyId} {row : SecurityThresholdPolicy} (single : AtMostOne policies status)
    (there : policies.get policyId = some row) (has : row.status = status) :
    newest (withStatus policies status) = some (policyId, row) := by
  have listed := mem_withStatus.mpr ⟨there, has⟩
  cases chosen : newest (withStatus policies status) with
  | none =>
      rw [newest_eq_none.mp chosen] at listed
      cases listed
  | some best =>
      obtain ⟨bestId, best⟩ := best
      obtain ⟨found, also⟩ := mem_withStatus.mp (newest_spec chosen).1
      obtain rfl := single bestId policyId best row found there also has
      rw [there] at found
      rw [Option.some.inj found]

/-- In every run a rollout splits the actors by their buckets between the one candidate and the
one active policy. -/
theorem rollout_splits_actors {activeId candidateId : PolicyId}
    {active candidate : SecurityThresholdPolicy} (reachable : system.Reachable world)
    (there : world.center.policies.get activeId = some active) (isActive : active.status = .active)
    (known : world.center.policies.get candidateId = some candidate)
    (isCandidate : candidate.status = .candidate) (actorId : Option String) :
    (resolveSecurityThresholdPolicy world.center.policies actorId none).policy = some
      (if (given actorId).any fun actor => bucketForActor actor < candidate.rolloutPercent then
        (candidateId, candidate) else (activeId, active)) := by
  have lawful : world.Lawful := by
    refine reachable.invariant (fun _ => .init) fun _ _ _ _ lawful step => ?_
    exact lawful.step step
  have chosen := newest_withStatus lawful.oneActive there isActive
  have tried := newest_withStatus lawful.oneCandidate known isCandidate
  simp only [resolveSecurityThresholdPolicy, chosen, tried, resolveRollout]
  cases given actorId with
  | none => rfl
  | some actor =>
      by_cases hit : (bucketForActor actor : Int) < candidate.rolloutPercent <;>
        simp [given, hit]

theorem World.Succeeds.activePolicy_eq (succeeds : world.Succeeds) :
    activePolicy world.center.policies = (world.chronicle.reigns.map Prod.fst).head? := by
  rw [Succession.activePolicy_eq succeeds, List.head?_map]

theorem governed (lawful : world.Lawful) (succeeds : world.Succeeds) :
    world.Governed fun world action => action.Sound world where
  oneActive := lawful.oneActive
  oneCandidate := lawful.oneCandidate
  neverWithout reigned := by
    obtain ⟨reign, head⟩ := Option.isSome_iff_exists.mp (List.isSome_head?.mpr reigned)
    obtain ⟨row, there, active⟩ :=
      Succession.head_known succeeds (Option.map_eq_some_iff.mpr ⟨reign, head, rfl⟩)
    exact ⟨reign.1, row, there, active⟩
  appliedOnce := lawful.counted.once
  quorum action next requestId step applied := lawful.quorum step applied
  restored action next sound rollsBack step := by
    obtain ⟨current, previous, earlier, before, after⟩ := succeeds.rollback sound rollsBack step
    refine ⟨current, previous, earlier, before, ?_, ?_⟩
    · rw [succeeds.activePolicy_eq, before]
      rfl
    · rw [(succeeds.step step sound).activePolicy_eq, after]
      rfl
  back first second middle next sound rollsBack step sound' rollsBack' step' := by
    have between := succeeds.step step sound
    obtain ⟨current, previous, earlier, before, after⟩ := succeeds.rollback sound rollsBack step
    obtain ⟨_, _, _, before', after'⟩ := between.rollback sound' rollsBack' step'
    obtain ⟨-, rest⟩ := List.cons.inj (before'.symm.trans after)
    obtain ⟨rfl, -⟩ := List.cons.inj rest
    rw [succeeds.activePolicy_eq, before, (between.step step' sound').activePolicy_eq, after']
    rfl

/-- Along every run of sound calls the policies are governed. -/
theorem policies_governed (initial : system.Init start)
    (run : (system.restrict fun world action => action.Sound world).Run start actions world) :
    world.Governed fun world action => action.Sound world := by
  suffices world.Lawful ∧ world.Succeeds from governed this.1 this.2
  refine run.preserves_restricted (fun state action next _ kept step sound => ?_) (.init initial)
    ⟨.init initial, .init initial⟩
  exact ⟨kept.1.step step, kept.2.step step sound⟩

/-! ## Histories -/

namespace Demo

/-- Calls one after the other, two ticks for each. -/
def script (calls : List Call) : List Action :=
  calls.zipIdx.map fun call => ⟨call.1, 2 * call.2 + 1, 2 * call.2 + 2⟩

/-- A candidate is given up by a rollback to the policy that is active. -/
def givenUp : Scene perform {} where
  actions := script [.createPolicy "v1" 100, .operate (.activate "v1"), .createPolicy "v2" 100,
    .operate (.setCandidate "v2" 1), .operate (.rollback (some "v1"))]
  possible := by decide +kernel

/-- The second policy is active and the third is a candidate. -/
def canary : Scene perform {} where
  actions := script [.createPolicy "v1" 100, .operate (.activate "v1"), .createPolicy "v2" 100,
    .operate (.activate "v2"), .createPolicy "v3" 100, .operate (.setCandidate "v3" 10)]
  possible := by decide +kernel

def rollBack (now : Time) : Action := ⟨.operate (.rollback none), now, now + 1⟩

/-- Back to the first policy, and on to the third one, which was never active. -/
def restored : Scene perform {} := canary.next (rollBack 13) (by decide +kernel)

def rolledOut : Scene perform {} := restored.next (rollBack 15) (by decide +kernel)

/-- Perform a sound action. -/
def performSound (world : World) (action : Action) : Option World :=
  if action.Sound world then perform world action else none

/-- The second policy is active, the first one again, and the second one again. -/
def upgraded : Scene performSound {} where
  actions := script [.createPolicy "v1" 100, .operate (.activate "v1"), .createPolicy "v2" 100,
    .operate (.activate "v2"), .operate (.rollback none), .operate (.rollback none)]
  possible := by decide +kernel

theorem restricted_of_performSound (world : World) (action : Action) (next : World)
    (taken : performSound world action = some next) :
    (system.restrict fun world action => action.Sound world).Step world action next := by
  unfold performSound at taken
  split at taken
  case isTrue sound => exact ⟨taken, sound⟩
  case isFalse => cases taken

end Demo

theorem policies_governed_upgraded :
    Demo.upgraded.world.Governed fun world action => action.Sound world :=
  policies_governed ⟨rfl, rfl⟩ (Demo.upgraded.run Demo.restricted_of_performSound)

theorem rollout_splits_actors_canary : ∃ active candidate : SecurityThresholdPolicy, ∀ actorId,
    (resolveSecurityThresholdPolicy Demo.canary.world.center.policies actorId none).policy = some
      (if (given actorId).any fun actor => bucketForActor actor < candidate.rolloutPercent then
        ("v3", candidate) else ("v2", active)) := by
  obtain ⟨active, there, isActive⟩ : ∃ row ∈ Demo.canary.world.center.policies.get "v2",
      row.status = .active := by decide +kernel
  obtain ⟨candidate, known, isCandidate⟩ : ∃ row ∈ Demo.canary.world.center.policies.get "v3",
      row.status = .candidate := by decide +kernel
  exact ⟨active, candidate, rollout_splits_actors
    ⟨_, _, ⟨rfl, rfl⟩, Demo.canary.run fun _ _ _ => id⟩ there isActive known isCandidate⟩

/-- A rollback to the active policy leaves none active, and one that names no policy can make a
policy active that was never active before. -/
theorem not_policies_governed :
    (system.Run {} Demo.givenUp.actions Demo.givenUp.world ∧
      ¬Demo.givenUp.world.Governed fun _ _ => True) ∧
    system.Run {} Demo.canary.actions Demo.canary.world ∧
      ¬Demo.canary.world.Governed fun _ _ => True := by
  refine ⟨⟨Demo.givenUp.run fun _ _ _ => id, fun governed => ?_⟩,
    Demo.canary.run fun _ _ _ => id, fun governed => ?_⟩
  · have reigned : Demo.givenUp.world.chronicle.reigns ≠ [] := by decide +kernel
    obtain ⟨policyId, row, there, active⟩ := governed.neverWithout reigned
    have none_ : ∀ entry ∈ Demo.givenUp.world.center.policies.rows,
        entry.2.status ≠ .active := by
      decide +kernel
    exact none_ (policyId, row) (OrderedTable.mem_rows_iff.mpr there) active
  · have first : (Demo.rollBack 13).RollsBack Demo.canary.world :=
      ⟨⟨.rollback none, rfl, rfl⟩, by decide +kernel⟩
    have second : (Demo.rollBack 15).RollsBack Demo.restored.world :=
      ⟨⟨.rollback none, rfl, rfl⟩, by decide +kernel⟩
    have back := governed.back (Demo.rollBack 13) (Demo.rollBack 15) Demo.restored.world
      Demo.rolledOut.world trivial first (Demo.canary.performed _ _) trivial second
      (Demo.restored.performed _ _)
    have elsewhere : activePolicy Demo.rolledOut.world.center.policies ≠
        activePolicy Demo.canary.world.center.policies := by
      decide +kernel
    exact elsewhere back

end TrustChain.SecurityPolicy
