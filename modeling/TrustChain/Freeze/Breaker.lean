import TrustChain.Freeze.Payouts

/-!
# CircuitBreaker

The pauses that the freeze contract asks about. A global pause lasts until an administrator has
asked for its end and a day has passed.
-/

namespace TrustChain.Freeze.CircuitBreaker

open Library Function

def maxThreshold : Nat := 2 ^ 128 - 1

/-- `EMERGENCY_RESUME_DELAY`: 24 hours. -/
def emergencyResumeDelay : Nat := 24 * 60 * 60

structure Storage where
  globalPaused : Bool := false
  /-- 0 if no resume is requested. -/
  emergencyResumeRequestedAt : Nat := 0
  humanApprovalThreshold : Address → Nat := fun _ => 0
  agentPaused : Address → Bool := fun _ => false

inductive Error where
  | invalidAddress
  | invalidAmount
  | invalidState
  | unauthorized
  | emergencyResumeTooSoon (requestedAt availableAt : Nat)
  | panic

instance : ArithmeticPanic Error := ⟨.panic⟩

section Functions

variable (admin sender : Address) (timestamp : Nat) (storage : Storage)

def onlyAdmin : Except Error Unit := require (sender = admin) .unauthorized

def setHumanApprovalThreshold (amount : Nat) : Except Error Storage := do
  require (amount ≠ 0) .invalidAmount
  require (amount ≤ maxThreshold) .invalidAmount
  .ok { storage with
    humanApprovalThreshold := update storage.humanApprovalThreshold sender amount }

def setAgentPaused (paused : Bool) (agent : Address) : Except Error Storage := do
  onlyAdmin admin sender
  require (agent ≠ 0) .invalidAddress
  .ok { storage with agentPaused := update storage.agentPaused agent paused }

def pauseAgent := setAgentPaused admin sender storage true

def resumeAgent := setAgentPaused admin sender storage false

def emergencyPause : Except Error Storage := do
  onlyAdmin admin sender
  .ok { storage with globalPaused := true, emergencyResumeRequestedAt := 0 }

def requestEmergencyResume : Except Error Storage := do
  onlyAdmin admin sender
  require (storage.globalPaused = true) .invalidState
  let _ ← checkedAdd timestamp emergencyResumeDelay
  .ok { storage with emergencyResumeRequestedAt := timestamp }

def emergencyResume : Except Error Storage := do
  onlyAdmin admin sender
  require (storage.emergencyResumeRequestedAt ≠ 0) .invalidState
  let availableAt ← checkedAdd storage.emergencyResumeRequestedAt emergencyResumeDelay
  require (availableAt ≤ timestamp)
    (.emergencyResumeTooSoon storage.emergencyResumeRequestedAt availableAt)
  .ok { storage with globalPaused := false, emergencyResumeRequestedAt := 0 }

end Functions

/-- The external functions that change the contract. -/
inductive Call where
  | setHumanApprovalThreshold (amount : Nat)
  | pauseAgent (agent : Address)
  | resumeAgent (agent : Address)
  | emergencyPause
  | requestEmergencyResume
  | emergencyResume

def dispatch (admin sender : Address) (timestamp : Nat) (storage : Storage) :
    Call → Except Error Storage
  | .setHumanApprovalThreshold amount => setHumanApprovalThreshold sender storage amount
  | .pauseAgent agent => pauseAgent admin sender storage agent
  | .resumeAgent agent => resumeAgent admin sender storage agent
  | .emergencyPause => emergencyPause admin sender storage
  | .requestEmergencyResume => requestEmergencyResume admin sender timestamp storage
  | .emergencyResume => emergencyResume admin sender timestamp storage

/-- The contract and the time of the last block: calls by anybody, one after the other. -/
def system (admin : Address) : TransitionSystem (Storage × Nat) (Address × Call) where
  Init state := state.1 = {}
  Step state action next := state.2 ≤ next.2 ∧
    dispatch admin action.1 next.2 state.1 action.2 = .ok next.1

/-- A pause since `since`: it goes on, with no end requested before, or a day has passed. -/
def PausedSince (since : Nat) (state : Storage × Nat) : Prop :=
  since ≤ state.2 ∧ (since + emergencyResumeDelay ≤ state.2 ∨ state.1.globalPaused = true ∧
    (state.1.emergencyResumeRequestedAt = 0 ∨ since ≤ state.1.emergencyResumeRequestedAt))

variable {admin : Address} {state next paused : Storage × Nat} {action : Address × Call}
  {actions : List (Address × Call)} {since : Nat}

theorem PausedSince.step (holds : PausedSince since state)
    (step : (system admin).Step state action next) : PausedSince since next := by
  obtain ⟨later, ran⟩ := step
  obtain ⟨begun, late | ⟨isPaused, requested⟩⟩ := holds
  · exact ⟨begun.trans later, .inl (late.trans later)⟩
  refine ⟨begun.trans later, ?_⟩
  obtain ⟨sender, call⟩ := action
  cases call with
  | setHumanApprovalThreshold | pauseAgent | resumeAgent =>
      simp only [dispatch, setHumanApprovalThreshold, pauseAgent, resumeAgent, setAgentPaused,
        onlyAdmin, require_bind_eq_ok, Except.ok.injEq] at ran
      obtain ⟨-, -, ran⟩ := ran
      exact ran ▸ .inr ⟨isPaused, requested⟩
  | emergencyPause =>
      simp only [dispatch, emergencyPause, onlyAdmin, require_bind_eq_ok, Except.ok.injEq] at ran
      exact ran.2 ▸ .inr ⟨rfl, .inl rfl⟩
  | requestEmergencyResume =>
      simp only [dispatch, requestEmergencyResume, onlyAdmin, require_bind_eq_ok,
        checkedAdd_bind_eq_ok, Except.ok.injEq] at ran
      exact ran.2.2.2 ▸ .inr ⟨isPaused, .inr (begun.trans later)⟩
  | emergencyResume =>
      simp only [dispatch, emergencyResume, onlyAdmin, require_bind_eq_ok, checkedAdd_bind_eq_ok,
        Except.ok.injEq] at ran
      obtain ⟨-, asked, -, waited, -⟩ := ran
      have afterwards := requested.resolve_left asked
      exact .inl ((Nat.add_le_add_right afterwards _).trans waited)

/-- For a day after an emergency pause, whoever calls what in between, no call pays the agent of
a binding more than the agent's own bill, where the freeze contract is the guard and asks this
breaker. -/
theorem pause_stops_payouts {deployment : Deployment} {world after : World} {breaker : Breaker}
    {sender : Address} {msg : Bilateral.Message deployment.bilateral} {ext : Bilateral.Externals}
    {call : Bilateral.Call} {bindingId : Nat}
    (pause : (system admin).Step state (sender, .emergencyPause) paused)
    (run : (system admin).Run paused actions next)
    (soon : next.2 < paused.2 + emergencyResumeDelay)
    (reachable : (Freeze.system deployment).Reachable world)
    (guarded : world.bilateral.storage.config.emergencyGuard = deployment.self)
    (asked : world.freeze.circuitBreaker ≠ 0)
    (answers : breaker.isGlobalPaused = some next.1.globalPaused)
    (step : (Freeze.system deployment).Step world (.bilateral msg ext breaker call) after)
    (paysOut : call.binding = some bindingId) :
    ∃ calls, after.bilateral.tokenCalls = world.bilateral.tokenCalls ++ calls ∧
      ∀ token, Erc20.paidTo token (world.bilateral.storage.agentOwner bindingId) calls ≤
        (world.bilateral.storage.bills
          (world.bilateral.storage.bindings bindingId).agentBillId).amount := by
  have holds : PausedSince paused.2 next := by
    have ran := pause.2
    simp only [dispatch, emergencyPause, onlyAdmin, require_bind_eq_ok, Except.ok.injEq] at ran
    have initially : PausedSince paused.2 paused :=
      ⟨le_rfl, .inr (ran.2 ▸ ⟨rfl, .inl rfl⟩)⟩
    clear soon answers
    induction run with
    | nil => exact initially
    | snoc _ step ih => exact ih.step step
  have isPaused := (holds.2.resolve_left (not_le_of_gt soon)).1
  obtain ⟨scope, until_, blocked⟩ : ∃ scope until_,
      world.payoutBlocked breaker msg.timestamp bindingId = some (true, scope, until_) := by
    rw [World.payoutBlocked, Freeze.Storage.payoutBlocked, Freeze.Storage.breakerGlobalPaused,
      if_neg asked, answers, isPaused]
    split
    · exact ⟨_, _, rfl⟩
    · exact ⟨_, _, rfl⟩
  obtain ⟨-, bilateral, taken, rfl⟩ := step_bilateral.mp step
  rw [← payoutAnswer_answers guarded] at blocked
  exact (Bilateral.step_blocked (reachable_bilateral reachable) taken
    (guarded ▸ deployment.self_ne_zero) blocked).1 paysOut

namespace Demo

open Freeze.Demo

def asking : Scene (perform deployment) start :=
  frozen.next (.freeze deployment.admin 1209600 (.setCircuitBreaker 13)) (by decide +kernel)

def refunded : Scene (perform deployment) start :=
  asking.next (.bilateral (Bilateral.Demo.message Bilateral.Demo.buyer 1210600) {}
    { isGlobalPaused := some true } (.refundOnTimeout 1)) (by decide +kernel)

end Demo

/-- The end of the pause is requested already when the buyer is refunded. -/
theorem pause_stops_payouts_demo :
    ∃ calls, Demo.refunded.world.bilateral.tokenCalls =
        Demo.asking.world.bilateral.tokenCalls ++ calls ∧
      ∀ token, Erc20.paidTo token (Demo.asking.world.bilateral.storage.agentOwner 1) calls ≤
        (Demo.asking.world.bilateral.storage.bills
          (Demo.asking.world.bilateral.storage.bindings 1).agentBillId).amount := by
  have pause : (system 1).Step ({}, 0) (1, .emergencyPause) ({ globalPaused := true }, 1210000) :=
    ⟨by decide, rfl⟩
  have request : (system 1).Step ({ globalPaused := true }, 1210000) (1, .requestEmergencyResume)
      ({ globalPaused := true, emergencyResumeRequestedAt := 1210300 }, 1210300) :=
    ⟨by decide, rfl⟩
  have reachable : (Freeze.system Freeze.Demo.deployment).Reachable Demo.asking.world :=
    ⟨_, _, Freeze.Demo.start_init, Demo.asking.run fun _ _ _ performed => performed⟩
  exact pause_stops_payouts pause (.single request) (by decide) reachable (by decide +kernel)
    (by decide +kernel) rfl (Demo.asking.performed _ _) rfl

end TrustChain.Freeze.CircuitBreaker
