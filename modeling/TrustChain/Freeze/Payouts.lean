import TrustChain.Bilateral.Guard
import TrustChain.Freeze.Operations

/-!
# The bilateral contract and its guard

Anybody calls either contract in any order. While the freeze contract is the emergency guard
of the bilateral one, it is what answers there; any other guard answers as it likes. What the
fee bridge calls on the freeze contract while a binding is paid out is a step of its own after
the transaction: the guard is asked before the bridge.
-/

namespace TrustChain.Freeze

open Library Function

/-- What is fixed at deployment. -/
structure Deployment where
  bilateral : Bilateral.Deployment
  self : Address
  admin : Address
  self_ne_zero : self ≠ 0
  admin_ne_zero : admin ≠ 0

structure World where
  bilateral : Bilateral.World
  freeze : Storage
  events : List Event := []
  now : Nat := 0

/-- What can happen next: a call of either contract, or a token operation. -/
inductive Action (deployment : Deployment) where
  | bilateral (msg : Bilateral.Message deployment.bilateral) (ext : Bilateral.Externals)
      (breaker : Breaker) (call : Bilateral.Call)
  | token (token : Address) (operation : Erc20.Operation Address)
  | freeze (sender : Address) (timestamp : Nat) (call : Call)

/-- The answers that the bilateral contract gets. -/
def World.answers (deployment : Deployment) (world : World) (ext : Bilateral.Externals)
    (breaker : Breaker) (timestamp : Nat) : Bilateral.Externals :=
  if world.bilateral.storage.config.emergencyGuard = deployment.self then
    { ext with payoutBlocked := world.freeze.payoutBlocked breaker timestamp }
  else ext

/-- Perform an action, if it is possible now. -/
def perform (deployment : Deployment) (world : World) : Action deployment → Option World
  | .bilateral msg ext breaker call =>
      if world.now ≤ msg.timestamp then
        (Bilateral.perform deployment.bilateral world.bilateral
          (.call msg (world.answers deployment ext breaker msg.timestamp) call)).map
            fun bilateral => { world with bilateral, now := msg.timestamp }
      else none
  | .token token operation =>
      (Bilateral.perform deployment.bilateral world.bilateral (.token token operation)).map
        fun bilateral => { world with bilateral }
  | .freeze sender timestamp call =>
      if world.now ≤ timestamp then
        (dispatch deployment.admin sender timestamp world.freeze call).toOption.map
          fun (freeze, event) =>
            { world with freeze, events := world.events ++ [event], now := timestamp }
      else none

/-- Both contracts from their deployment on. -/
def system (deployment : Deployment) : TransitionSystem World (Action deployment) where
  Init world := (Bilateral.system deployment.bilateral).Init world.bilateral ∧
    world.freeze = { freezeOperator := deployment.admin }
  Step world action next := perform deployment world action = some next

section Steps

variable {deployment : Deployment} {world next : World} {action : Action deployment}

theorem step_bilateral {msg : Bilateral.Message deployment.bilateral} {ext : Bilateral.Externals}
    {breaker : Breaker} {call : Bilateral.Call} :
    (system deployment).Step world (.bilateral msg ext breaker call) next ↔
      world.now ≤ msg.timestamp ∧
      ∃ bilateral, (Bilateral.system deployment.bilateral).Step world.bilateral
          (.call msg (world.answers deployment ext breaker msg.timestamp) call) bilateral ∧
        next = { world with bilateral, now := msg.timestamp } := by
  change perform deployment world (.bilateral msg ext breaker call) = some next ↔ _
  simp only [perform, Option.ite_none_right_eq_some, Option.map_eq_some_iff, eq_comm (a := next)]
  exact Iff.rfl

theorem step_token {token : Address} {operation : Erc20.Operation Address} :
    (system deployment).Step world (.token token operation) next ↔
      ∃ bilateral, (Bilateral.system deployment.bilateral).Step world.bilateral
          (.token token operation) bilateral ∧ next = { world with bilateral } := by
  change perform deployment world (.token token operation) = some next ↔ _
  simp only [perform, Option.map_eq_some_iff, eq_comm (a := next)]
  exact Iff.rfl

theorem step_freeze {sender : Address} {timestamp : Nat} {call : Call} :
    (system deployment).Step world (.freeze sender timestamp call) next ↔
      world.now ≤ timestamp ∧
      ∃ freeze event, dispatch deployment.admin sender timestamp world.freeze call =
          .ok (freeze, event) ∧
        next = { world with freeze, events := world.events ++ [event], now := timestamp } := by
  change perform deployment world (.freeze sender timestamp call) = some next ↔ _
  simp only [perform, Option.ite_none_right_eq_some, Option.map_eq_some_iff, toOption_eq_some,
    Prod.exists, eq_comm (a := next)]

/-- For the bilateral contract every step is one of its own, or none. -/
theorem reachable_bilateral (reachable : (system deployment).Reachable world) :
    (Bilateral.system deployment.bilateral).Reachable world.bilateral := by
  refine reachable.invariant (fun state initial => .init initial.1) ?_
  intro state action next _ earlier step
  cases action with
  | bilateral msg ext breaker call =>
      obtain ⟨-, bilateral, taken, rfl⟩ := step_bilateral.mp step
      exact earlier.step taken
  | token token operation =>
      obtain ⟨bilateral, taken, rfl⟩ := step_token.mp step
      exact earlier.step taken
  | freeze sender timestamp call =>
      obtain ⟨-, freeze, event, -, rfl⟩ := step_freeze.mp step
      exact earlier

end Steps

/-! ## What a freeze stops, and for how long

A payout that the freeze contract blocks leaves the agent its own bill at most; refunds on
timeout, resolutions entirely in favour of the buyer and unlocks are never blocked; and a
freeze is over a week after the last call that covers the binding.
-/

section Payouts

variable {deployment : Deployment} {start world next : World} {action : Action deployment}
  {actions : List (Action deployment)}

/-- What the freeze contract answers on the payout of a binding. -/
def World.payoutBlocked (world : World) (breaker : Breaker) (timestamp bindingId : Nat) :
    Option (Bool × Nat × Nat) :=
  world.freeze.payoutBlocked breaker timestamp bindingId
    (world.bilateral.storage.bindings bindingId).buyerBillId
    (world.bilateral.storage.bindings bindingId).agentBillId
    (world.bilateral.storage.buyerOwner bindingId) (world.bilateral.storage.agentOwner bindingId)

/-- The scopes that cover the payout of a binding. -/
def World.covering (world : World) (bindingId : Nat) : List Scope :=
  Freeze.covering bindingId (world.bilateral.storage.bindings bindingId).buyerBillId
    (world.bilateral.storage.bindings bindingId).agentBillId
    (world.bilateral.storage.buyerOwner bindingId) (world.bilateral.storage.agentOwner bindingId)

theorem payoutAnswer_answers {ext : Bilateral.Externals} {breaker : Breaker} {timestamp : Nat}
    (guarded : world.bilateral.storage.config.emergencyGuard = deployment.self) (bindingId : Nat) :
    Bilateral.payoutAnswer (world.answers deployment ext breaker timestamp) world.bilateral.storage
      bindingId = world.payoutBlocked breaker timestamp bindingId := by
  rw [World.answers, if_pos guarded]
  rfl

/-- The freeze contract only decides which answers a spared call ignores. -/
theorem perform_spared {msg : Bilateral.Message deployment.bilateral} {call : Bilateral.Call}
    (spared : call.Spared) (world : World) (ext : Bilateral.Externals) (breaker other : Breaker)
    (freeze : Storage) :
    (perform deployment { world with freeze } (.bilateral msg ext other call)).map World.bilateral =
      (perform deployment world (.bilateral msg ext breaker call)).map World.bilateral := by
  have ignored : ∀ world breaker,
      Bilateral.exec deployment.bilateral (World.answers deployment world ext breaker msg.timestamp)
        msg call = Bilateral.exec deployment.bilateral ext msg call := by
    intro world breaker
    funext bilateral
    unfold World.answers
    split
    · exact Bilateral.exec_spared spared _
    · rfl
  simp only [perform, Bilateral.perform, ignored]
  split
  · simp only [Option.map_map]
    rfl
  · rfl

/-- A scope that is frozen was frozen in the run, for at most the maximum. -/
theorem run_frozenUntil (initial : (system deployment).Init start)
    (run : (system deployment).Run start actions world) (scope : Scope)
    (frozen : world.freeze.frozenUntil scope ≠ 0) :
    ∃ sender timestamp call, .freeze sender timestamp call ∈ actions ∧
      call.freezes = some scope ∧
      world.freeze.frozenUntil scope ≤ timestamp + maxFreezeDuration := by
  induction run with
  | nil =>
      rw [initial.2] at frozen
      cases scope <;> exact absurd rfl frozen
  | @snoc actions middle finish action earlier step ih =>
      have before (kept : finish.freeze.frozenUntil scope = middle.freeze.frozenUntil scope) :
          ∃ sender timestamp call, .freeze sender timestamp call ∈ actions ++ [action] ∧
            call.freezes = some scope ∧
            finish.freeze.frozenUntil scope ≤ timestamp + maxFreezeDuration := by
        rw [kept] at frozen ⊢
        obtain ⟨sender, timestamp, call, member, freezes, bounded⟩ := ih frozen
        exact ⟨sender, timestamp, call, List.mem_append_left _ member, freezes, bounded⟩
      cases action with
      | bilateral msg ext breaker call =>
          obtain ⟨-, bilateral, -, rfl⟩ := step_bilateral.mp step
          exact before rfl
      | token token operation =>
          obtain ⟨bilateral, -, rfl⟩ := step_token.mp step
          exact before rfl
      | freeze sender timestamp call =>
          obtain ⟨-, freeze, event, ran, rfl⟩ := step_freeze.mp step
          rcases dispatch_frozenUntil ran scope with kept | lifted | ⟨freezes, bounded⟩
          · exact before kept
          · exact absurd lifted frozen
          · exact ⟨sender, timestamp, call, by simp, freezes, bounded⟩

/-- While the freeze contract guards the bilateral one and blocks the payout of a binding, a
call on that binding pays its agent the agent's own bill at most, and any other call leaves
the binding as it is. The calls that protect the buyer do not depend on any freeze. And
without a breaker nothing is blocked once a week has passed since every freeze call that
covers the binding. -/
theorem freeze_stops_payouts (initial : (system deployment).Init start)
    (run : (system deployment).Run start actions world) :
    (∀ bindingId msg ext breaker call scope until_ next,
      world.bilateral.storage.config.emergencyGuard = deployment.self →
      world.payoutBlocked breaker msg.timestamp bindingId = some (true, scope, until_) →
      (system deployment).Step world (.bilateral msg ext breaker call) next →
        (call.binding = some bindingId → ∃ calls,
          next.bilateral.tokenCalls = world.bilateral.tokenCalls ++ calls ∧
          ∀ token, Erc20.paidTo token (world.bilateral.storage.agentOwner bindingId) calls ≤
            (world.bilateral.storage.bills
              (world.bilateral.storage.bindings bindingId).agentBillId).amount) ∧
        (call.binding ≠ some bindingId → world.bilateral.storage.Opened bindingId →
          next.bilateral.storage.bindings bindingId = world.bilateral.storage.bindings bindingId)) ∧
    (∀ msg ext breaker other call freeze, Bilateral.Call.Spared call →
      (perform deployment { world with freeze } (.bilateral msg ext other call)).map World.bilateral =
        (perform deployment world (.bilateral msg ext breaker call)).map World.bilateral) ∧
    ∀ breaker timestamp bindingId, world.freeze.circuitBreaker = 0 →
      (∀ sender frozenAt call scope, .freeze sender frozenAt call ∈ actions →
        call.freezes = some scope → scope ∈ world.covering bindingId →
          frozenAt + maxFreezeDuration ≤ timestamp) →
      world.payoutBlocked breaker timestamp bindingId = some (false, 0, 0) := by
  refine ⟨?_, fun msg ext breaker other call freeze spared => ?_, ?_⟩
  · intro bindingId msg ext breaker call scope until_ next guarded blocked step
    have reachable := reachable_bilateral ⟨start, actions, initial, run⟩
    obtain ⟨-, bilateral, taken, rfl⟩ := step_bilateral.mp step
    rw [← payoutAnswer_answers guarded] at blocked
    have nonzero : world.bilateral.storage.config.emergencyGuard ≠ 0 :=
      guarded ▸ deployment.self_ne_zero
    exact Bilateral.step_blocked reachable taken nonzero blocked
  · exact perform_spared spared world ext breaker other freeze
  · intro breaker timestamp bindingId unbroken passed
    apply payoutBlocked_passed breaker unbroken
    intro scope covers
    by_cases open_ : world.freeze.frozenUntil scope = 0
    · exact open_.trans_le (Nat.zero_le _)
    · obtain ⟨sender, frozenAt, call, member, freezes, bounded⟩ :=
        run_frozenUntil initial run scope open_
      exact bounded.trans (passed sender frozenAt call scope member freezes covers)

end Payouts

namespace Demo

open Bilateral.Demo (buyer agent admin usd message)

theorem admin_ne_zero : admin ≠ 0 := by decide

def deployment : Deployment where
  bilateral := Bilateral.Demo.deployment
  self := 12
  admin := admin
  self_ne_zero := by decide
  admin_ne_zero := admin_ne_zero

def start : World where
  bilateral := Bilateral.Demo.start
  freeze := { freezeOperator := deployment.admin }

theorem start_init : (system deployment).Init start := ⟨Bilateral.Demo.start_init, rfl⟩

def bilateral (sender : Address) (timestamp : Nat) (call : Bilateral.Call) : Action deployment :=
  .bilateral (message sender timestamp) {} {} call

/-- The buyer's bill 2 is bound with the agent's bill 1, and the agent is frozen for an hour
when the binding times out. -/
def frozen : Library.Scene (perform deployment) start where
  actions := [bilateral admin 1000 (.setter (.setTokenAllowed usd true)),
    bilateral admin 1000 (.setter (.setEmergencyGuard deployment.self)),
    bilateral agent 1000 (.lock usd 50), bilateral buyer 1000 (.lock usd 50),
    bilateral buyer 1000 (.bind 2 1 0), .freeze admin 1209600 (.freezeAgent agent 3600 "")]
  possible := by decide +kernel

/-- The buyer is refunded nevertheless. -/
def refunded : Library.Scene (perform deployment) start :=
  frozen.next (bilateral buyer 1210600 (.refundOnTimeout 1)) (by decide +kernel)

end Demo

theorem freeze_stops_payouts_demo :
    Demo.frozen.world.payoutBlocked {} 1210600 1 = some (true, 2, 1213200) ∧
    ∃ calls, Demo.refunded.world.bilateral.tokenCalls =
        Demo.frozen.world.bilateral.tokenCalls ++ calls ∧
      ∀ token, Erc20.paidTo token (Demo.frozen.world.bilateral.storage.agentOwner 1) calls ≤
        (Demo.frozen.world.bilateral.storage.bills
          (Demo.frozen.world.bilateral.storage.bindings 1).agentBillId).amount := by
  have blocked : Demo.frozen.world.payoutBlocked {} 1210600 1 = some (true, 2, 1213200) := by
    decide +kernel
  have guarded : Demo.frozen.world.bilateral.storage.config.emergencyGuard =
      Demo.deployment.self := by decide +kernel
  have run : (system Demo.deployment).Run Demo.start Demo.frozen.actions Demo.frozen.world :=
    Demo.frozen.run fun _ _ _ performed => performed
  have step : (system Demo.deployment).Step Demo.frozen.world
      (Demo.bilateral Bilateral.Demo.buyer 1210600 (.refundOnTimeout 1)) Demo.refunded.world :=
    Demo.frozen.performed _ _
  exact ⟨blocked, ((freeze_stops_payouts Demo.start_init run).1 1 _ _ _ _ 2 1213200 _ guarded blocked
    step).1 rfl⟩

end TrustChain.Freeze
