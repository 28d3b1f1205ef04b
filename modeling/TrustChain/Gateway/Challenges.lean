import TrustChain.Gateway.Effects

/-!
# The challenge window

The setter refuses windows below the minimum, the constructor does not; and a task can be
settled in the very second in which it can still be challenged. In the runs that publish
under the minimum at least, and never settle in that second, the window is what it
promises to be.
-/

namespace TrustChain.Gateway

open Library Function

section Evidence

variable {deployment : Deployment} {start world next : World} {action : Action deployment}
  {actions : List (Action deployment)} {taskId evidenceHash : Bytes32}

/-- Everything the gateway keeps on the evidence of a task. -/
structure SameEvidence (world next : World) (taskId : Bytes32) : Prop where
  evidence_eq : next.storage.taskEvidence taskId = world.storage.taskEvidence taskId
  cid_eq : next.storage.taskEvidenceCid taskId = world.storage.taskEvidenceCid taskId
  challengeEnd_eq : next.storage.challengeEnd taskId = world.storage.challengeEnd taskId

/-- A step leaves the evidence of a task alone, or publishes it for the first time. -/
theorem step_evidence (step : (system deployment).Step world action next) (taskId : Bytes32) :
    SameEvidence world next taskId ∨
      world.storage.taskEvidence taskId = 0 ∧
      ∃ msg ext evidenceHash cid,
        action = .gateway msg ext (.publishEvidence taskId evidenceHash cid) ∧
        next.storage.taskEvidence taskId = evidenceHash ∧
        next.storage.taskEvidenceCid taskId = cid ∧
        next.storage.challengeEnd taskId =
          msg.timestamp + world.storage.challengeWindowDuration := by
  cases step_happened step with
  | bilateral => exact .inl ⟨rfl, rfl, rfl⟩
  | registry => exact .inl ⟨rfl, rfl, rfl⟩
  | gateway msg ext call next later effect =>
      cases effect with
      | published publishedId evidenceHash cid events unpublished =>
          by_cases same : taskId = publishedId
          · subst same
            refine .inr ⟨unpublished, msg, ext, evidenceHash, cid, rfl, ?_⟩
            simp
          · refine .inl ⟨?_, ?_, ?_⟩ <;> exact update_of_ne same _ _
      | attested attestedId v r s valid storage tokens registry registryEvents events _ _ _ _
          counting =>
          rw [count_ok counting]
          exact .inl ⟨rfl, rfl, rfl⟩
      | settled | challenged | resolved | configured => exact .inl ⟨rfl, rfl, rfl⟩

/-- Evidence is published once, and then stays. -/
theorem step_published (step : (system deployment).Step world action next)
    (published : world.storage.taskEvidence taskId ≠ 0) : SameEvidence world next taskId := by
  rcases step_evidence step taskId with same | ⟨unpublished, -⟩
  · exact same
  · exact absurd unpublished published

/-- A successful publication. -/
theorem step_publishes {msg : Message} {ext : Externals} {cid : String}
    (step : (system deployment).Step world
      (.gateway msg ext (.publishEvidence taskId evidenceHash cid)) next) :
    next.storage.taskEvidence taskId = evidenceHash ∧
      next.storage.challengeEnd taskId =
        msg.timestamp + world.storage.challengeWindowDuration := by
  cases step_happened step with
  | gateway _ _ _ next later effect =>
      cases effect with
      | published => simp

/-- The evidence of a task is what was published for it in the run. -/
theorem published_iff (initial : (system deployment).Init start)
    (run : (system deployment).Run start actions world) (nonzero : evidenceHash ≠ 0) :
    world.storage.taskEvidence taskId = evidenceHash ↔
      ∃ msg ext cid, .gateway msg ext (.publishEvidence taskId evidenceHash cid) ∈ actions := by
  induction run with
  | nil =>
      obtain ⟨-, -, -, duration, fresh⟩ := initial
      rw [fresh]
      simpa using nonzero.symm
  | @snoc actions middle finish action earlier step ih =>
      constructor
      · intro evidence
        rcases step_evidence step taskId with same | ⟨-, msg, ext, _, cid, rfl, rfl, -⟩
        · obtain ⟨msg, ext, cid, member⟩ := ih.mp (same.evidence_eq.symm.trans evidence)
          exact ⟨msg, ext, cid, List.mem_append_left _ member⟩
        · subst evidence
          exact ⟨msg, ext, cid, by simp⟩
      · rintro ⟨msg, ext, cid, member⟩
        rcases List.mem_append.mp member with before | now
        · have evidence := ih.mpr ⟨msg, ext, cid, before⟩
          rw [(step_published step (by rwa [evidence])).evidence_eq, evidence]
        · obtain rfl : _ = action := List.mem_singleton.mp now
          exact (step_publishes step).1

end Evidence

section Windows

variable {deployment : Deployment} {start world next : World} {action : Action deployment}
  {actions : List (Action deployment)}

/-- Evidence is published under the minimum at least, and no task is settled in the second
in which its window ends. -/
def WindowSound (world : World) : Action deployment → Prop
  | .gateway _ _ (.publishEvidence _ evidenceHash _) =>
      evidenceHash ≠ 0 → minChallengeWindow ≤ world.storage.challengeWindowDuration
  | .gateway msg _ (.settleWithAttestation taskId _ _) =>
      msg.timestamp ≠ world.storage.challengeEnd taskId
  | _ => True

/-- No task is settled while its challenge window is open. -/
def SettlesClosed (world : World) : Action deployment → Prop
  | .gateway msg _ (.settleWithAttestation taskId _ _) =>
      world.isChallengeWindowOpen msg.timestamp taskId = false
  | _ => True

/-- Every task whose evidence is published in the run can be challenged for the minimum. -/
def Floored (actions : List (Action deployment)) (world : World) : Prop :=
  ∀ msg ext taskId evidenceHash cid,
    .gateway msg ext (.publishEvidence taskId evidenceHash cid) ∈ actions → evidenceHash ≠ 0 →
      msg.timestamp + minChallengeWindow ≤ world.storage.challengeEnd taskId

theorem step_unique {other : World} (step : (system deployment).Step world action next)
    (again : (system deployment).Step world action other) : next = other :=
  Option.some.inj (step.symm.trans again)

/-- What one more step adds. -/
theorem floored_snoc (initial : (system deployment).Init start)
    (run : (system deployment).Run start actions world)
    (step : (system deployment).Step world action next) :
    Floored (actions ++ [action]) next ↔ Floored actions world ∧ Floored [action] next := by
  have kept : ∀ msg ext taskId evidenceHash cid,
      .gateway msg ext (.publishEvidence taskId evidenceHash cid) ∈ actions → evidenceHash ≠ 0 →
        next.storage.challengeEnd taskId = world.storage.challengeEnd taskId := by
    intro msg ext taskId evidenceHash cid member nonzero
    have evidence := (published_iff initial run nonzero).mpr ⟨msg, ext, cid, member⟩
    exact (step_published step (by rwa [evidence])).challengeEnd_eq
  constructor
  · intro floored
    constructor
    · intro msg ext taskId evidenceHash cid member nonzero
      rw [← kept msg ext taskId evidenceHash cid member nonzero]
      exact floored msg ext taskId evidenceHash cid (List.mem_append_left _ member) nonzero
    · intro msg ext taskId evidenceHash cid member nonzero
      exact floored msg ext taskId evidenceHash cid (List.mem_append_right _ member) nonzero
  · rintro ⟨before, now⟩ msg ext taskId evidenceHash cid member nonzero
    rcases List.mem_append.mp member with earlier | last
    · rw [kept msg ext taskId evidenceHash cid earlier nonzero]
      exact before msg ext taskId evidenceHash cid earlier nonzero
    · exact now msg ext taskId evidenceHash cid last nonzero

/-- The condition on a step is exactly what the window promises of it. -/
theorem windowSound_iff (reachable : (system deployment).Reachable world)
    (step : (system deployment).Step world action next) :
    WindowSound world action ↔ Floored [action] next ∧ SettlesClosed world action := by
  cases action with
  | bilateral action => simp [WindowSound, Floored, SettlesClosed]
  | registry msg ext call => simp [WindowSound, Floored, SettlesClosed]
  | gateway msg ext call =>
      cases call with
      | publishEvidence taskId evidenceHash cid =>
          have ending := (step_publishes step).2
          simp only [WindowSound, SettlesClosed, Floored, List.mem_singleton, and_true]
          constructor
          · rintro sound _ _ _ _ _ ⟨⟩ nonzero
            have long := sound nonzero
            omega
          · intro floored nonzero
            have long := floored msg ext taskId evidenceHash cid rfl nonzero
            omega
      | settleWithAttestation taskId bindingId proofHash =>
          obtain ⟨settleable, -⟩ := step_settlement reachable step
          have closed := settleable.closed
          have published := settleable.published
          simp only [WindowSound, SettlesClosed, Floored, World.isChallengeWindowOpen,
            List.mem_singleton, Action.gateway.injEq, reduceCtorEq, and_false, false_implies,
            implies_true, true_and, published, ne_eq, not_false_eq_true, and_true,
            decide_eq_false_iff_not]
          omega
      | _ => simp [WindowSound, Floored, SettlesClosed]

/-- A run meets the condition at every step exactly if its window is kept throughout. -/
theorem windowSound_run_iff (initial : (system deployment).Init start)
    (run : (system deployment).Run start actions world) :
    ((system deployment).restrict WindowSound).Run start actions world ↔
      Floored actions world ∧ ((system deployment).restrict SettlesClosed).Run start actions world := by
  induction run with
  | nil =>
      have none : Floored ([] : List (Action deployment)) start :=
        fun _ _ _ _ _ member => absurd member List.not_mem_nil
      exact ⟨fun _ => ⟨none, .nil⟩, fun _ => .nil⟩
  | @snoc actions middle finish action earlier step ih =>
      have reachable : (system deployment).Reachable middle := ⟨start, actions, initial, earlier⟩
      rw [earlier.restrict_snoc (fun _ _ _ _ => step_unique) step,
        earlier.restrict_snoc (fun _ _ _ _ => step_unique) step, ih,
        floored_snoc initial earlier step, windowSound_iff reachable step]
      tauto

/-- When a challenge of a task can be raised. -/
theorem raiseChallenge_enabled_iff {msg : Message} {ext : Externals} {taskId : Bytes32}
    {reason cid : String} (later : world.now ≤ msg.timestamp)
    (published : world.storage.taskEvidence taskId ≠ 0)
    (unchallenged : world.storage.challenged taskId = false) :
    (∃ next, (system deployment).Step world
      (.gateway msg ext (.raiseChallenge taskId reason cid)) next) ↔
      msg.timestamp ≤ world.storage.challengeEnd taskId := by
  simp only [step_gateway, dispatch, raiseChallenge, require_bind_eq_ok]
  constructor
  · rintro ⟨next, -, -, early, -⟩
    exact early
  · intro early
    exact ⟨_, later, published, early, unchallenged, rfl⟩

/-- A run publishes under the minimum at least and settles no task in the second in which
its window ends, exactly if every task that it publishes can be challenged for the minimum
and it never settles a task whose window is open. In every state it is in that second, and
in no other, that a task can both be challenged and pass the window gate of a settlement. -/
theorem challenge_window_iff (initial : (system deployment).Init start)
    (run : (system deployment).Run start actions world) :
    (((system deployment).restrict WindowSound).Run start actions world ↔
      Floored actions world ∧
        ((system deployment).restrict SettlesClosed).Run start actions world) ∧
    (∀ taskId, world.storage.taskEvidence taskId ≠ 0 → ∃ msg ext cid,
      .gateway msg ext (.publishEvidence taskId (world.storage.taskEvidence taskId) cid) ∈ actions) ∧
    ∀ msg ext taskId reason cid, world.now ≤ msg.timestamp →
      world.storage.taskEvidence taskId ≠ 0 → world.storage.challenged taskId = false →
      (((∃ next, (system deployment).Step world
          (.gateway msg ext (.raiseChallenge taskId reason cid)) next) ∧
        world.storage.challengeEnd taskId ≤ msg.timestamp) ↔
          msg.timestamp = world.storage.challengeEnd taskId) := by
  refine ⟨windowSound_run_iff initial run, fun taskId published => ?_, ?_⟩
  · exact (published_iff initial run published).mp rfl
  · intro msg ext taskId reason cid later published unchallenged
    rw [raiseChallenge_enabled_iff later published unchallenged]
    exact ⟨fun both => both.1.antisymm both.2, fun same => ⟨same.le, same.ge⟩⟩

end Windows

namespace Demo

open Bilateral.Demo (buyer agent admin usd)

/-- The contracts deployed without any challenge window, and evidence published at 1000. -/
def instant : Scene 0 where
  actions := [bilateral admin 1000 (.setter (.setTokenAllowed usd true)),
    bilateral admin 1000 (.setter (.setAttestationGateway deployment.self)),
    bilateral agent 1000 (.lock usd 50), bilateral buyer 1000 (.lock usd 50),
    bilateral buyer 1000 (.bindWithAttestation 2 1 0 77),
    registry (.registerVerifier verifier "" 0), registry (.setThresholds 1 1),
    registry (.setAuthorizedCaller deployment.self true),
    gateway agent 1000 (.publishEvidence 77 99 ""),
    gateway verifier 1000 (.submitAttestation 77 27 0 0 true)]
  possible := by decide +kernel

/-- The binding is settled in the same second. -/
def instantSettled : Scene 0 :=
  instant.next (gateway agent 1000 (.settleWithAttestation 77 1 99)) (by decide +kernel)

/-- The first binding of the deployment with a window is settled a second after its end. -/
def settledLate : Scene 3600 :=
  attested.next (gateway agent 4601 (.settleWithAttestation 77 1 99)) (by decide +kernel)

end Demo

/-- Deployed without a window, the contracts settle in the second of publication; with a
window, in its last second, when the task can still be challenged. -/
theorem window_missing :
    (system Demo.deployment).Init (Demo.start 0) ∧
    (system Demo.deployment).Run (Demo.start 0) Demo.instant.actions Demo.instant.world ∧
    Demo.gateway Bilateral.Demo.agent 1000 (.publishEvidence 77 99 "") ∈ Demo.instant.actions ∧
    Demo.instant.world.storage.challengeEnd 77 < 1000 + minChallengeWindow ∧
    Demo.instant.world.isChallengeWindowOpen 1000 77 = true ∧
    (system Demo.deployment).Step Demo.instant.world
      (Demo.gateway Bilateral.Demo.agent 1000 (.settleWithAttestation 77 1 99))
      Demo.instantSettled.world ∧
    (system Demo.deployment).Reachable Demo.attested.world ∧
    Demo.attested.world.isChallengeWindowOpen 4600 77 = true ∧
    (system Demo.deployment).Step Demo.attested.world
      (Demo.gateway Bilateral.Demo.agent 4600 (.settleWithAttestation 77 1 99))
      Demo.settled.world :=
  ⟨Demo.start_init 0, Demo.instant.run, by simp [Demo.instant], by decide +kernel,
    by decide +kernel, Demo.instant.step _ _, Demo.attested.reachable, by decide +kernel,
    Demo.attested.step _ _⟩

theorem challenge_window_iff_demo :
    Floored Demo.settledLate.actions Demo.settledLate.world := by
  have admitted : ∀ action ∈ Demo.bound.actions, ∀ world, WindowSound world action := by
    intro action member world
    simp only [Demo.bound, List.mem_cons, List.not_mem_nil, or_false] at member
    rcases member with rfl | rfl | rfl | rfl | rfl | rfl | rfl | rfl | rfl | rfl | rfl <;> trivial
  have sound : ((system Demo.deployment).restrict WindowSound).Run (Demo.start 3600)
      Demo.settledLate.actions Demo.settledLate.world := by
    refine .snoc (.snoc (.snoc (Demo.bound.run.restrict admitted) ⟨Demo.bound.step _ _, ?_⟩)
      ⟨Demo.published.step _ _, ?_⟩) ⟨Demo.attested.step _ _, ?_⟩
    · intro _
      decide +kernel
    · trivial
    · change (4601 : Nat) ≠ Demo.attested.world.storage.challengeEnd 77
      decide +kernel
  exact ((challenge_window_iff (Demo.start_init 3600) Demo.settledLate.run).1.mp sound).1

end TrustChain.Gateway
