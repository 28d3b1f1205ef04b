import TrustChain.Bilateral.Settlement
import TrustChain.Gateway.Protocol

/-!
# How often a quorum is used

The gateway keeps no record of the tasks it has settled. What it settles, in the order of
a run, are pairwise distinct bindings, each for the task that the binding carries. A task
that several bindings carry is used for each of them. A task whose challenge has been upheld settles
nothing any more.
-/

namespace TrustChain.Gateway

open Library Function

section Settlements

variable {deployment : Deployment} {start world next : World} {action : Action deployment}
  {actions : List (Action deployment)} {taskId : Bytes32} {bindingId : Nat}

/-- The task and the binding of a settlement through the gateway. -/
def Action.settlement : Action deployment → Option (Bytes32 × Nat)
  | .gateway _ _ (.settleWithAttestation taskId bindingId _) => some (taskId, bindingId)
  | _ => none

/-- The settlements through the gateway in a run. -/
def settlements (actions : List (Action deployment)) : List (Bytes32 × Nat) :=
  actions.filterMap Action.settlement

/-- The bindings that a task was used to settle. -/
def settledFor (taskId : Bytes32) (actions : List (Action deployment)) : List Nat :=
  ((settlements actions).filter fun entry => entry.1 = taskId).map Prod.snd

theorem settlements_snoc :
    settlements (actions ++ [action]) = settlements actions ++ action.settlement.toList := by
  rw [settlements, settlements, List.filterMap_append]
  cases settles : action.settlement <;> simp [settles]

/-- An attested binding of the task that is settled. -/
structure Recorded (world : World) (taskId : Bytes32) (bindingId : Nat) : Prop where
  opened : world.bilateral.storage.Opened bindingId
  attested : world.bilateral.storage.requiresAttestation bindingId = true
  bound : world.bilateral.storage.bindingTaskId bindingId = taskId
  settled : (world.bilateral.storage.bindings bindingId).state = .settled

/-- A settled binding stays as it is. -/
theorem Recorded.step (recorded : Recorded world taskId bindingId)
    (reachable : (system deployment).Reachable world)
    (step : (system deployment).Step world action next) : Recorded next taskId bindingId := by
  have earlier := (reachable_bilateral reachable).1
  obtain ⟨opened, attested, bound, settled⟩ := recorded
  rcases (reachable_seen reachable step).storage with same | ⟨made, -, taken, -⟩
  · constructor <;> rwa [same]
  · obtain ⟨attested_eq, bound_eq⟩ := Bilateral.step_requirement earlier taken opened
    have dead : (world.bilateral.storage.bindings bindingId).state.live = false := by
      rw [settled]
      rfl
    obtain ⟨opened', binding_eq, -⟩ := Bilateral.step_closed earlier ⟨opened, rfl, dead⟩ taken
    exact ⟨opened', attested_eq.trans attested, bound_eq.trans bound, by rwa [binding_eq]⟩

/-- A settlement records its binding, which was not settled before. -/
theorem settlement_records (reachable : (system deployment).Reachable world)
    (step : (system deployment).Step world action next)
    (settles : action.settlement = some (taskId, bindingId)) :
    Recorded next taskId bindingId ∧
      (world.bilateral.storage.bindings bindingId).state ≠ .settled := by
  cases action with
  | bilateral action => cases settles
  | registry msg ext call => cases settles
  | gateway msg ext call =>
      cases call with
      | settleWithAttestation settledTask settledId proofHash =>
          obtain ⟨rfl, rfl⟩ : settledTask = taskId ∧ settledId = bindingId := by
            simpa [Action.settlement] using settles
          obtain ⟨settleable, taken⟩ := step_settlement reachable step
          obtain ⟨-, once⟩ := settlement_settles reachable step
          obtain ⟨attested_eq, bound_eq⟩ :=
            Bilateral.step_requirement (reachable_bilateral reachable).1 taken once.opened
          have opened := (Bilateral.step_binding (reachable_bilateral reachable).1 taken
            once.opened).opened
          refine ⟨⟨opened, attested_eq.trans once.attested, bound_eq.trans settleable.bound,
            once.settled⟩, ?_⟩
          intro settled
          rcases once.waiting with state | state <;> exact absurd (settled.symm.trans state) (by simp)
      | _ => cases settles

/-- Every settlement of a run is on record at its end, and no binding is settled twice. -/
theorem run_recorded (initial : (system deployment).Init start)
    (run : (system deployment).Run start actions world) :
    ((settlements actions).map Prod.snd).Nodup ∧
      ∀ taskId bindingId, (taskId, bindingId) ∈ settlements actions →
        Recorded world taskId bindingId := by
  induction run with
  | nil => exact ⟨List.nodup_nil, fun _ _ member => absurd member List.not_mem_nil⟩
  | @snoc actions middle finish action earlier step ih =>
      obtain ⟨distinct, recorded⟩ := ih
      have reachable : (system deployment).Reachable middle := ⟨start, actions, initial, earlier⟩
      have kept : ∀ taskId bindingId, (taskId, bindingId) ∈ settlements actions →
          Recorded finish taskId bindingId :=
        fun taskId bindingId member => (recorded taskId bindingId member).step reachable step
      rw [settlements_snoc]
      cases settles : action.settlement with
      | none => simpa using ⟨distinct, kept⟩
      | some entry =>
          obtain ⟨now, unsettled⟩ := settlement_records reachable step settles
          have fresh : entry.2 ∉ (settlements actions).map Prod.snd := by
            intro member
            obtain ⟨⟨otherTask, otherId⟩, listed, same⟩ := List.mem_map.mp member
            obtain rfl : otherId = entry.2 := same
            exact unsettled (recorded otherTask _ listed).settled
          constructor
          · rw [Option.toList_some, List.map_append, List.map_singleton, ← List.concat_eq_append]
            exact distinct.concat fresh
          · intro taskId bindingId member
            rcases List.mem_append.mp member with listed | new
            · exact kept taskId bindingId listed
            · obtain rfl : (taskId, bindingId) = entry := by simpa using new
              exact now

/-- A binding that needs the attestation of the task. -/
structure Carries (world : World) (bindingId : Nat) (taskId : Bytes32) : Prop where
  attested : world.bilateral.storage.requiresAttestation bindingId = true
  bound : world.bilateral.storage.bindingTaskId bindingId = taskId

/-- In every run the settlements through the gateway are of pairwise distinct bindings, each
settled for the task it carries; so a task that at most one binding carries is used at most
once. -/
theorem one_settlement_each (initial : (system deployment).Init start)
    (run : (system deployment).Run start actions world) :
    ((settlements actions).map Prod.snd).Nodup ∧
    (∀ taskId bindingId, (taskId, bindingId) ∈ settlements actions →
      Carries world bindingId taskId ∧
        (world.bilateral.storage.bindings bindingId).state = .settled) ∧
    ∀ taskId, (∀ first second, Carries world first taskId → Carries world second taskId →
      first = second) → (settledFor taskId actions).length ≤ 1 := by
  obtain ⟨distinct, recorded⟩ := run_recorded initial run
  have carries : ∀ taskId bindingId, (taskId, bindingId) ∈ settlements actions →
      Carries world bindingId taskId :=
    fun taskId bindingId member =>
      ⟨(recorded taskId bindingId member).attested, (recorded taskId bindingId member).bound⟩
  refine ⟨distinct, fun taskId bindingId member => ?_, fun taskId single => ?_⟩
  · exact ⟨carries taskId bindingId member, (recorded taskId bindingId member).settled⟩
  · have used : (settledFor taskId actions).Nodup := distinct.sublist (List.filter_sublist.map _)
    have carried : ∀ bindingId ∈ settledFor taskId actions, Carries world bindingId taskId := by
      intro bindingId member
      obtain ⟨⟨carriedTask, otherId⟩, filtered, same⟩ := List.mem_map.mp member
      obtain rfl : otherId = bindingId := same
      obtain ⟨listed, sameTask⟩ := List.mem_filter.mp filtered
      obtain rfl : carriedTask = taskId := by simpa using sameTask
      exact carries carriedTask otherId listed
    match listed : settledFor taskId actions with
    | [] => exact Nat.zero_le _
    | [_] => exact le_rfl
    | first :: second :: rest =>
        rw [listed] at used carried
        have same := single first second (carried first (by simp)) (carried second (by simp))
        simp [same] at used

/-- One quorum on task 77 settles two bindings. -/
theorem task_settled_twice :
    (system Demo.deployment).Init (Demo.start 3600) ∧
    (system Demo.deployment).Run (Demo.start 3600) Demo.settledTwice.actions
      Demo.settledTwice.world ∧
    settledFor 77 Demo.settledTwice.actions = [1, 2] ∧
    (Demo.settledTwice.world.bilateral.storage.bindings 1).state = .settled ∧
    (Demo.settledTwice.world.bilateral.storage.bindings 2).state = .settled ∧
    Demo.settledTwice.world.storage.validAttestationCount 77 = 1 :=
  ⟨Demo.start_init 3600, Demo.settledTwice.run, by decide +kernel, by decide +kernel,
    by decide +kernel, by decide +kernel⟩

theorem one_settlement_each_demo :
    ((settlements Demo.settledTwice.actions).map Prod.snd).Nodup :=
  (one_settlement_each (Demo.start_init 3600) Demo.settledTwice.run).1

/-- Whatever the gateway and the registry do, the bilateral contract sees one of its own runs: its
books stay valid and its tokens cover what it has locked. -/
theorem escrow_survives_composition (initial : (system deployment).Init start)
    (run : (system deployment).Run start actions world) :
    (∃ made, (Bilateral.system deployment.bilateral).Run start.bilateral made world.bilateral) ∧
    Bilateral.Valid world.bilateral.storage ∧
    ∀ token, (world.bilateral.tokens token).Backed deployment.bilateral.self
      (world.bilateral.storage.totalLocked token) := by
  have alone := (reachable_bilateral ⟨start, actions, initial, run⟩).1
  refine ⟨?_, Bilateral.reachable_valid alone, Bilateral.reachable_backed alone⟩
  induction run with
  | nil => exact ⟨[], .nil⟩
  | snoc earlier step ih =>
      have reachable : (system deployment).Reachable _ := ⟨start, _, initial, earlier⟩
      obtain ⟨before, first⟩ := ih (reachable_bilateral reachable).1
      obtain ⟨after, second⟩ := (reachable_seen reachable step).run
      exact ⟨before ++ after, first.append second⟩

theorem escrow_survives_composition_demo :
    Bilateral.Valid Demo.settledTwice.world.bilateral.storage :=
  (escrow_survives_composition (Demo.start_init 3600) Demo.settledTwice.run).2.1

/-! ## Upheld challenges -/

/-- The arbitrator has upheld a challenge of the task. -/
structure Upheld (world : World) (taskId : Bytes32) : Prop where
  challenged : world.storage.challenged taskId = true
  resolved : world.storage.challengeResolved taskId = true
  upheld : world.storage.challengeUpheld taskId = true

/-- Nothing takes back what the arbitrator has upheld. -/
theorem Upheld.step (upheld : Upheld world taskId)
    (step : (system deployment).Step world action next) : Upheld next taskId := by
  obtain ⟨challenged, resolved, upheld⟩ := upheld
  cases step_happened step with
  | bilateral | registry => exact ⟨challenged, resolved, upheld⟩
  | gateway msg ext call next later effect =>
      cases effect with
      | attested _ _ _ _ _ _ _ _ _ _ _ _ _ _ counting =>
          rw [count_ok counting]
          exact ⟨challenged, resolved, upheld⟩
      | challenged other =>
          refine ⟨?_, resolved, upheld⟩
          by_cases same : taskId = other <;> simp [update, same, ← challenged]
      | resolved other _ _ _ _ unresolved =>
          have apart : taskId ≠ other := by
            rintro rfl
            rw [resolved] at unresolved
            cases unresolved
          exact ⟨challenged, (update_of_ne apart _ _).trans resolved,
            (update_of_ne apart _ _).trans upheld⟩
      | published | settled | configured => exact ⟨challenged, resolved, upheld⟩

theorem Upheld.blocks {timestamp : Nat} {proofHash : Bytes32} (upheld : Upheld world taskId) :
    ¬Settleable world timestamp taskId bindingId proofHash := by
  intro settleable
  rcases settleable.unchallenged with unchallenged | ⟨-, rejected⟩
  · rw [upheld.challenged] at unchallenged
    cases unchallenged
  · rw [upheld.upheld] at rejected
    cases rejected

/-- A binding that carries the task and has paid no agent. -/
structure Unpaid (world : World) (taskId : Bytes32) (bindingId : Nat) : Prop where
  opened : world.bilateral.storage.Opened bindingId
  carries : Carries world bindingId taskId
  unpaid : (world.bilateral.storage.bindings bindingId).state.Waiting ∨
    (world.bilateral.storage.bindings bindingId).state = .refunded

theorem Unpaid.step (unpaid : Unpaid world taskId bindingId) (upheld : Upheld world taskId)
    (reachable : (system deployment).Reachable world)
    (guarded : Guarded deployment world.bilateral.storage)
    (step : (system deployment).Step world action next) : Unpaid next taskId bindingId := by
  have earlier := (reachable_bilateral reachable).1
  obtain ⟨opened, ⟨attested, bound⟩, unpaid⟩ := unpaid
  rcases (reachable_seen reachable step).storage with same | ⟨made, -, taken, -⟩
  · constructor
    · rwa [same]
    · constructor <;> rwa [same]
    · rwa [same]
  · obtain ⟨attested_eq, bound_eq⟩ := Bilateral.step_requirement earlier taken opened
    refine ⟨(Bilateral.step_binding earlier taken opened).opened,
      ⟨attested_eq.trans attested, bound_eq.trans bound⟩, ?_⟩
    rcases unpaid with waiting | refunded
    · refine or_iff_not_imp_left.mpr fun moved => ?_
      cases step_exit reachable guarded step attested waiting moved with
      | settled msg ext other proofHash next settleable =>
          obtain rfl : taskId = other := bound.symm.trans settleable.bound
          exact absurd settleable upheld.blocks
      | refunded msg ext next buyer refunded => exact refunded
    · have dead : (world.bilateral.storage.bindings bindingId).state.live = false := by
        rw [refunded]
        rfl
      right
      rwa [(Bilateral.step_closed earlier ⟨opened, rfl, dead⟩ taken).binding_eq]

/-- As long as the bilateral contract is given no other gateway, an upheld challenge is final: the
task can never be settled again, and no binding that carries it is ever paid out to its agent. -/
theorem upheld_is_final {more : List (Action deployment)} {later : World}
    (initial : (system deployment).Init start)
    (before : ((system deployment).restrict fun _ action => KeepsGateway action).Run start actions
      world) (upheld : Upheld world taskId)
    (after : ((system deployment).restrict fun _ action => KeepsGateway action).Run world more
      later) :
    (∀ timestamp, later.canSettleTask timestamp taskId = false) ∧
    (∀ msg ext bindingId proofHash next, ¬(system deployment).Step later
      (.gateway msg ext (.settleWithAttestation taskId bindingId proofHash)) next) ∧
    ∀ bindingId, Unpaid world taskId bindingId → Unpaid later taskId bindingId := by
  have kept : Upheld later taskId ∧
      ∀ bindingId, Unpaid world taskId bindingId → Unpaid later taskId bindingId := by
    induction after with
    | nil => exact ⟨upheld, fun _ => id⟩
    | snoc between step ih =>
        have run := before.append between
        refine ⟨ih.1.step step.1, fun bindingId unpaid => ?_⟩
        exact (ih.2 bindingId unpaid).step ih.1 ⟨_, _, initial, run.of_restrict⟩
          (run_guarded initial run) step.1
  have reachable : (system deployment).Reachable later :=
    ⟨_, _, initial, (before.append after).of_restrict⟩
  refine ⟨fun timestamp => ?_, fun msg ext bindingId proofHash next step => ?_, kept.2⟩
  · simp [World.canSettleTask, kept.1.challenged, kept.1.upheld]
  · exact kept.1.blocks (step_settlement reachable step).1

end Settlements

namespace Demo

open Bilateral.Demo (buyer)

/-- The buyer challenges the task before it is settled. -/
def challenged : Scene 3600 :=
  attested.next (gateway buyer 2000 (.raiseChallenge 77 "" "")) (by decide +kernel)

/-- The arbitrator upholds the challenge. -/
def upheld : Scene 3600 :=
  challenged.next (gateway deployment.arbitrator 3000 (.resolveChallenge 77 true)) (by decide +kernel)

end Demo

/-- The buyer takes its money back. -/
theorem upheld_is_final_refunded :
    ∃ later, (system Demo.deployment).Step Demo.upheld.world
      (Demo.bilateral Bilateral.Demo.buyer 1000000 (.refundOnTimeout 1)) later ∧
      Unpaid later 77 1 := by
  have challenges := Demo.attested_keeps.snoc
    ⟨Demo.attested.step (Demo.gateway Bilateral.Demo.buyer 2000 (.raiseChallenge 77 "" ""))
      (by decide +kernel), Demo.gateway_keeps⟩
  have upholds := challenges.snoc ⟨Demo.challenged.step (Demo.gateway Demo.deployment.arbitrator 3000
    (.resolveChallenge 77 true)) (by decide +kernel), Demo.gateway_keeps⟩
  have refunds := Demo.upheld.step (Demo.bilateral Bilateral.Demo.buyer 1000000 (.refundOnTimeout 1))
    (by decide +kernel)
  refine ⟨_, refunds, ?_⟩
  refine (upheld_is_final (Demo.start_init 3600) upholds ⟨by decide +kernel, by decide +kernel,
    by decide +kernel⟩ (.single ⟨refunds, Demo.bilateral_keeps (by simp)⟩)).2.2 1 ?_
  exact ⟨by decide +kernel, ⟨by decide +kernel, by decide +kernel⟩, by decide +kernel⟩

end TrustChain.Gateway
