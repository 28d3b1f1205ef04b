import TrustChain.Bilateral.Lifecycle
import TrustChain.Gateway.Operations

/-!
# The three contracts together

Anybody calls any of the contracts in any order; the gateway calls the registry and the
bilateral contract in its own name. A call that the fee bridge makes of the gateway or the
registry while a binding is paid out is a step of its own right after the transaction:
neither side reads what the other writes. For the bilateral contract every step is one of
its own or only moves tokens, so its invariants hold in the composition.
-/

namespace TrustChain.Gateway

open Library Function

/-- The external functions that change the gateway. -/
inductive Call where
  | publishEvidence (taskId evidenceHash : Bytes32) (cid : String)
  | submitAttestation (taskId : Bytes32) (v : UInt8) (r s : Bytes32) (valid : Bool)
  | settleWithAttestation (taskId : Bytes32) (bindingId : Nat) (proofHash : Bytes32)
  | raiseChallenge (taskId : Bytes32) (reason evidenceCid : String)
  | resolveChallenge (taskId : Bytes32) (upheld : Bool)
  | setChallengeWindowDuration (duration : Nat)

def dispatch (deployment : Deployment) (ext : Externals) (msg : Message) (world : World) :
    Call → Except Error World
  | .publishEvidence taskId evidenceHash cid => publishEvidence msg world taskId evidenceHash cid
  | .submitAttestation taskId v r s valid =>
      submitAttestation deployment ext msg world taskId v r s valid
  | .settleWithAttestation taskId bindingId proofHash =>
      settleWithAttestation deployment ext msg world taskId bindingId proofHash
  | .raiseChallenge taskId reason evidenceCid => raiseChallenge msg world taskId reason evidenceCid
  | .resolveChallenge taskId upheld => resolveChallenge deployment msg world taskId upheld
  | .setChallengeWindowDuration duration => setChallengeWindowDuration deployment msg world duration

/-- What can happen next: a call of one of the contracts, or a token operation. -/
inductive Action (deployment : Deployment) where
  | bilateral (action : Bilateral.Action deployment.bilateral)
  | registry (msg : Message) (ext : Registry.Externals) (call : Registry.Call)
  | gateway (msg : Message) (ext : Externals) (call : Call)

/-- The time after an action on the bilateral contract, if it is possible now. The gateway
is no sender of its own transactions. -/
def clock (deployment : Deployment) (now : Nat) :
    Bilateral.Action deployment.bilateral → Option Nat
  | .call msg _ _ => if msg.sender ≠ deployment.self ∧ now ≤ msg.timestamp then some msg.timestamp else none
  | .token _ _ => some now

/-- Perform an action, if it is possible now. -/
def perform (deployment : Deployment) (world : World) : Action deployment → Option World
  | .bilateral action => do
      let now ← clock deployment world.now action
      let bilateral ← Bilateral.perform deployment.bilateral world.bilateral action
      some { world with bilateral, now }
  | .registry msg ext call =>
      if world.now ≤ msg.timestamp then
        (World.callRegistry { world with now := msg.timestamp } fun registry =>
          Registry.dispatch deployment.registry ext msg.sender registry call).toOption
      else none
  | .gateway msg ext call =>
      if world.now ≤ msg.timestamp then
        (dispatch deployment ext msg { world with now := msg.timestamp } call).toOption
      else none

/-- The contracts from their deployment on; the constructor of the gateway takes any
duration of the challenge window. -/
def system (deployment : Deployment) : TransitionSystem World (Action deployment) where
  Init world := (Bilateral.system deployment.bilateral).Init world.bilateral ∧
    world.bilateral.now ≤ world.now ∧ world.registry = {} ∧
    ∃ duration, world.storage = { challengeWindowDuration := duration }
  Step world action next := perform deployment world action = some next

/-! ## Steps -/

section Steps

variable {deployment : Deployment} {world next : World} {ext : Externals} {msg : Message}

theorem step_bilateral {action : Bilateral.Action deployment.bilateral} :
    (system deployment).Step world (.bilateral action) next ↔
      ∃ now bilateral, clock deployment world.now action = some now ∧
        (Bilateral.system deployment.bilateral).Step world.bilateral action bilateral ∧
        next = { world with bilateral, now } := by
  change perform deployment world (.bilateral action) = some next ↔ _
  simp only [perform, Option.bind_eq_bind, Option.bind_eq_some_iff, Option.some.injEq]
  constructor
  · rintro ⟨now, clocked, bilateral, performed, rfl⟩
    exact ⟨now, bilateral, clocked, performed, rfl⟩
  · rintro ⟨now, bilateral, clocked, performed, rfl⟩
    exact ⟨now, clocked, bilateral, performed, rfl⟩

theorem step_registry {ext : Registry.Externals} {call : Registry.Call} :
    (system deployment).Step world (.registry msg ext call) next ↔
      world.now ≤ msg.timestamp ∧
        World.callRegistry { world with now := msg.timestamp } (fun registry =>
          Registry.dispatch deployment.registry ext msg.sender registry call) = .ok next := by
  change perform deployment world (.registry msg ext call) = some next ↔ _
  simp only [perform]
  by_cases later : world.now ≤ msg.timestamp
  · simp only [later, if_true, toOption_eq_some, true_and]
  · simp [later]

theorem step_gateway {call : Call} :
    (system deployment).Step world (.gateway msg ext call) next ↔
      world.now ≤ msg.timestamp ∧
        dispatch deployment ext msg { world with now := msg.timestamp } call = .ok next := by
  change perform deployment world (.gateway msg ext call) = some next ↔ _
  simp only [perform]
  by_cases later : world.now ≤ msg.timestamp
  · simp only [later, if_true, toOption_eq_some, true_and]
  · simp [later]

/-- What a call of the registry leaves: the rest of the world, and tokens it moved itself. -/
theorem callRegistry_ok {call : Registry.World → Except Registry.Error Registry.World}
    (ran : world.callRegistry call = .ok next) :
    ∃ called, call ⟨world.registry, world.bilateral.tokens, world.registryEvents⟩ = .ok called ∧
      next = { world with
        registry := called.storage
        bilateral.tokens := called.tokens
        registryEvents := called.events } := by
  simp only [World.callRegistry, bind_eq_ok, mapError_eq_ok, Except.ok.injEq] at ran
  obtain ⟨called, ran, rfl⟩ := ran
  exact ⟨called, ran, rfl⟩

end Steps

/-! ## A small deployment to run the contracts on -/

namespace Demo

open Bilateral.Demo (buyer agent admin usd)

def verifier : Address := 10

theorem admin_ne_zero : admin ≠ 0 := by decide

/-- Addresses 1, 7 and 8 are the contracts; an attestation is signed by whom its digest
names. -/
def deployment : Deployment where
  bilateral := Bilateral.Demo.deployment
  registry := ⟨8, admin, admin_ne_zero⟩
  self := 7
  arbitrator := 9
  registry_ne_zero := by decide
  bilateral_ne_zero := by decide
  arbitrator_ne_zero := by decide
  self_ne_zero := by decide
  self_ne_bilateral := by decide
  registry_ne_bilateral := by decide
  attestationDigest _ _ _ attester := attester.setWidth 256
  ecrecover digest _ _ _ := digest.setWidth 160

/-- The contracts, with a challenge window of `duration`. -/
def start (duration : Nat) : World where
  storage := { challengeWindowDuration := duration }
  bilateral := Bilateral.Demo.start

theorem start_init (duration : Nat) : (system deployment).Init (start duration) :=
  ⟨Bilateral.Demo.start_init, le_rfl, rfl, duration, rfl⟩

/-- A transaction of `sender` at `timestamp`; there is none at time zero. -/
def message (sender : Address) (timestamp : Nat) : Message :=
  if possible : 0 < timestamp then ⟨sender, timestamp, possible⟩ else ⟨sender, 1, Nat.one_pos⟩

def bilateral (sender : Address) (timestamp : Nat) (call : Bilateral.Call) : Action deployment :=
  .bilateral (Bilateral.Demo.call sender timestamp call)

def registry (call : Registry.Call) : Action deployment := .registry (message admin 1000) {} call

def gateway (sender : Address) (timestamp : Nat) (call : Call) : Action deployment :=
  .gateway (message sender timestamp) {} call

abbrev Scene (duration : Nat) := Library.Scene (perform deployment) (start duration)

theorem Scene.run {duration : Nat} (scene : Scene duration) :
    (system deployment).Run (start duration) scene.actions scene.world :=
  Library.Scene.run (fun _ _ _ performed => performed) scene

theorem Scene.reachable {duration : Nat} (scene : Scene duration) :
    (system deployment).Reachable scene.world :=
  ⟨start duration, scene.actions, start_init duration, scene.run⟩

theorem Scene.step {duration : Nat} (scene : Scene duration) (action : Action deployment)
    (possible : (TransitionSystem.follow (perform deployment) (start duration)
      (scene.actions ++ [action])).isSome) :
    (system deployment).Step scene.world action (scene.next action possible).world :=
  scene.performed action possible

/-- The buyer has bound its bills 2 and 4 with the agent's bills 1 and 3, for task 77, and
one attestation is enough. -/
def bound : Scene 3600 where
  actions := [bilateral admin 1000 (.setter (.setTokenAllowed usd true)),
    bilateral admin 1000 (.setter (.setAttestationGateway deployment.self)),
    bilateral agent 1000 (.lock usd 50), bilateral buyer 1000 (.lock usd 50),
    bilateral agent 1000 (.lock usd 50), bilateral buyer 1000 (.lock usd 50),
    bilateral buyer 1000 (.bindWithAttestation 2 1 0 77),
    bilateral buyer 1000 (.bindWithAttestation 4 3 0 77),
    registry (.registerVerifier verifier "" 0), registry (.setThresholds 1 1),
    registry (.setAuthorizedCaller deployment.self true)]
  possible := by decide +kernel

/-- Evidence 99 is published for the task. -/
def published : Scene 3600 :=
  bound.next (gateway agent 1000 (.publishEvidence 77 99 "")) (by decide +kernel)

/-- The evidence is attested. -/
def attested : Scene 3600 :=
  published.next (gateway verifier 1001 (.submitAttestation 77 27 0 0 true)) (by decide +kernel)

/-- The first binding is settled. -/
def settled : Scene 3600 :=
  attested.next (gateway agent 4600 (.settleWithAttestation 77 1 99)) (by decide +kernel)

/-- So is the second. -/
def settledTwice : Scene 3600 :=
  settled.next (gateway agent 4600 (.settleWithAttestation 77 2 99)) (by decide +kernel)

end Demo

end TrustChain.Gateway
