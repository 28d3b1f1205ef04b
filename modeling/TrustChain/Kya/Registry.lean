import TrustChain.Bilateral.Types
import TrustChain.Library.Transition

/-!
# KYARegistry

The registry of agent identifiers: storage, errors, events and functions, in the order of the
source. Registering an agent again is also how its identifier is renewed.
-/

namespace TrustChain.Kya

open Library Function

/-- `1 days`. -/
def oneDay : Nat := 24 * 60 * 60

/-- `Types.AgentDID`. -/
structure AgentDID where
  owner : Address := 0
  agent : Address := 0
  registeredAt : Nat := 0
  validUntil : Nat := 0
  permissionsHash : Bytes32 := 0
  isActive : Bool := false
  deriving DecidableEq

structure Storage where
  didByAgent : Address → AgentDID := fun _ => {}
  /-- `0.01 ether` at deployment. -/
  minStake : Nat := 10 ^ 16

inductive Error where
  | invalidAddress
  | invalidAmount
  | unauthorized
  | invalidState
  | didNotActive
  | panic
  deriving DecidableEq

instance : ArithmeticPanic Error := ⟨.panic⟩

inductive Event where
  | didRegistered (did : Bytes32) (agent owner : Address) (validUntil : Nat)
  | didRevoked (agent owner : Address)
  | permissionUpdated (agent : Address) (permissionsHash : Bytes32)
  | stuckETHWithdrawn (target : Address) (amount : Nat)

structure World where
  storage : Storage := {}
  balance : Nat := 0
  events : List Event := []
  /-- The time of the last block with a call. -/
  now : Nat := 0

/-- What is fixed at deployment: the administrator, `keccak256("kya:did:renew")`, and the
`keccak256` of sender, agent, time and permissions that identifies a registration. -/
structure Deployment where
  admin : Address
  didRenewScope : Bytes32
  didOf : Address → Address → Nat → Bytes32 → Bytes32

/-- The caller and the time of the block. -/
structure Message where
  sender : Address
  timestamp : Nat

namespace World

def emit (world : World) (event : Event) : World :=
  { world with events := world.events ++ [event] }

def setDID (world : World) (agent : Address) (did : AgentDID) : World :=
  { world with storage.didByAgent := update world.storage.didByAgent agent did }

end World

/-- Active and not expired. -/
def AgentDID.valid (did : AgentDID) (timestamp : Nat) : Bool :=
  did.isActive && decide (timestamp ≤ did.validUntil)

section Functions

variable (deployment : Deployment) (msg : Message) (world : World)

def registerDID (value : Nat) (agent : Address) (permissionsHash : Bytes32) (validityDays : Nat) :
    Except Error World := do
  require (agent ≠ 0) .invalidAddress
  require (world.storage.minStake ≤ value) .invalidAmount
  require (validityDays ≠ 0) .invalidAmount
  let existing := world.storage.didByAgent agent
  require (existing.owner = 0 ∨ existing.owner = msg.sender) .unauthorized
  if existing.valid msg.timestamp then
    require (permissionsHash = existing.permissionsHash ∨
      permissionsHash = deployment.didRenewScope) .invalidState
  let period ← checkedMul validityDays oneDay
  let validUntil ← checkedAdd msg.timestamp period
  let did := deployment.didOf msg.sender agent msg.timestamp permissionsHash
  let world := world.setDID agent
    { owner := msg.sender, agent, registeredAt := msg.timestamp, validUntil, permissionsHash
      isActive := true }
  .ok (World.emit { world with balance := world.balance + value }
    (.didRegistered did agent msg.sender validUntil))

def revokeDID (agent : Address) : Except Error World := do
  let did := world.storage.didByAgent agent
  require (did.owner = msg.sender) .unauthorized
  require (did.isActive = true) .invalidState
  .ok ((world.setDID agent { did with isActive := false }).emit (.didRevoked agent msg.sender))

/-- Whether the identifier is valid, its owner and its end. -/
def verifyDID (timestamp : Nat) (agent : Address) : Bool × Address × Nat :=
  let did := world.storage.didByAgent agent
  (did.valid timestamp, did.owner, did.validUntil)

def updatePermissions (agent : Address) (newPermissionsHash : Bytes32) : Except Error World := do
  let did := world.storage.didByAgent agent
  require (did.owner = msg.sender) .unauthorized
  require (did.isActive = true) .didNotActive
  .ok ((world.setDID agent { did with permissionsHash := newPermissionsHash }).emit
    (.permissionUpdated agent newPermissionsHash))

/-- The receiver of the ether may refuse it. What it calls back is a call of its own. -/
def withdrawStuckETH (target : Address) (amount : Nat) (accepted : Bool) : Except Error World := do
  require (msg.sender = deployment.admin) .unauthorized
  require (target ≠ 0) .invalidAddress
  require (amount ≠ 0 ∧ amount ≤ world.balance) .invalidAmount
  require (accepted = true) .invalidState
  .ok (World.emit { world with balance := world.balance - amount } (.stuckETHWithdrawn target amount))

def setMinStake (newMinStake : Nat) : Except Error World := do
  require (msg.sender = deployment.admin) .unauthorized
  require (newMinStake ≠ 0) .invalidAmount
  .ok { world with storage.minStake := newMinStake }

end Functions

/-- The external functions that change the registry. -/
inductive Call where
  | registerDID (value : Nat) (agent : Address) (permissionsHash : Bytes32) (validityDays : Nat)
  | revokeDID (agent : Address)
  | updatePermissions (agent : Address) (newPermissionsHash : Bytes32)
  | withdrawStuckETH (target : Address) (amount : Nat) (accepted : Bool)
  | setMinStake (newMinStake : Nat)
  deriving DecidableEq

def dispatch (deployment : Deployment) (msg : Message) (world : World) : Call → Except Error World
  | .registerDID value agent permissionsHash validityDays =>
      registerDID deployment msg world value agent permissionsHash validityDays
  | .revokeDID agent => revokeDID msg world agent
  | .updatePermissions agent newPermissionsHash =>
      updatePermissions msg world agent newPermissionsHash
  | .withdrawStuckETH target amount accepted =>
      withdrawStuckETH deployment msg world target amount accepted
  | .setMinStake newMinStake => setMinStake deployment msg world newMinStake

/-- Call the registry, not before the last block with a call. -/
def perform (deployment : Deployment) (world : World) (action : Message × Call) : Option World :=
  if world.now ≤ action.1.timestamp then
    (dispatch deployment action.1 world action.2).toOption.map
      fun next => { next with now := action.1.timestamp }
  else none

/-- Calls by anybody, one after the other. A call that reverts leaves no trace, so it is no
step. -/
def system (deployment : Deployment) : TransitionSystem World (Message × Call) where
  Init world := world = {}
  Step world action next := perform deployment world action = some next

/-! ## What a call leaves -/

/-- What a call leaves under the agents: a registration, a change of the record that only its
owner makes, or all of it. -/
inductive Effect (deployment : Deployment) (msg : Message) (world : World) :
    Call → (Address → AgentDID) → Prop
  | registered (value : Nat) (agent : Address) (permissionsHash : Bytes32) (validityDays : Nat) :
      (world.storage.didByAgent agent).owner = 0 ∨
        (world.storage.didByAgent agent).owner = msg.sender →
      ((world.storage.didByAgent agent).valid msg.timestamp = true →
        permissionsHash = (world.storage.didByAgent agent).permissionsHash ∨
          permissionsHash = deployment.didRenewScope) →
      Effect deployment msg world (.registerDID value agent permissionsHash validityDays)
        (update world.storage.didByAgent agent
          { owner := msg.sender, agent, registeredAt := msg.timestamp
            validUntil := msg.timestamp + validityDays * oneDay, permissionsHash
            isActive := true })
  | revoked (agent : Address) : (world.storage.didByAgent agent).owner = msg.sender →
      Effect deployment msg world (.revokeDID agent)
        (update world.storage.didByAgent agent
          { world.storage.didByAgent agent with isActive := false })
  | permitted (agent : Address) (newPermissionsHash : Bytes32) :
      (world.storage.didByAgent agent).owner = msg.sender →
      Effect deployment msg world (.updatePermissions agent newPermissionsHash)
        (update world.storage.didByAgent agent
          { world.storage.didByAgent agent with permissionsHash := newPermissionsHash })
  | withdrawn (target : Address) (amount : Nat) (accepted : Bool) :
      Effect deployment msg world (.withdrawStuckETH target amount accepted)
        world.storage.didByAgent
  | staked (newMinStake : Nat) :
      Effect deployment msg world (.setMinStake newMinStake) world.storage.didByAgent

section Steps

variable {deployment : Deployment} {msg : Message} {world next other : World} {call : Call}
  {action : Message × Call}

theorem registerDID_effect {value validityDays : Nat} {agent : Address} {permissionsHash : Bytes32}
    (ran : registerDID deployment msg world value agent permissionsHash validityDays = .ok next) :
    Effect deployment msg world (.registerDID value agent permissionsHash validityDays)
      next.storage.didByAgent := by
  simp only [registerDID, require_bind_eq_ok] at ran
  obtain ⟨-, -, -, own, ran⟩ := ran
  have renews : (world.storage.didByAgent agent).valid msg.timestamp = true →
      permissionsHash = (world.storage.didByAgent agent).permissionsHash ∨
        permissionsHash = deployment.didRenewScope := by
    intro valid
    rw [if_pos valid, require_bind_eq_ok] at ran
    exact ran.1
  have written : next.storage.didByAgent = update world.storage.didByAgent agent
      { owner := msg.sender, agent, registeredAt := msg.timestamp
        validUntil := msg.timestamp + validityDays * oneDay, permissionsHash
        isActive := true } := by
    split at ran
    · simp only [require_bind_eq_ok, checkedMul_bind_eq_ok, checkedAdd_bind_eq_ok,
        Except.ok.injEq] at ran
      obtain ⟨-, -, -, rfl⟩ := ran
      rfl
    · simp only [checkedMul_bind_eq_ok, checkedAdd_bind_eq_ok, Except.ok.injEq] at ran
      obtain ⟨-, -, rfl⟩ := ran
      rfl
  rw [written]
  exact .registered value agent permissionsHash validityDays own renews

theorem dispatch_effect (ran : dispatch deployment msg world call = .ok next) :
    Effect deployment msg world call next.storage.didByAgent := by
  cases call with
  | registerDID value agent permissionsHash validityDays => exact registerDID_effect ran
  | revokeDID agent =>
      simp only [dispatch, revokeDID, require_bind_eq_ok, Except.ok.injEq] at ran
      obtain ⟨own, -, rfl⟩ := ran
      exact .revoked agent own
  | updatePermissions agent newPermissionsHash =>
      simp only [dispatch, updatePermissions, require_bind_eq_ok, Except.ok.injEq] at ran
      obtain ⟨own, -, rfl⟩ := ran
      exact .permitted agent newPermissionsHash own
  | withdrawStuckETH target amount accepted =>
      simp only [dispatch, withdrawStuckETH, require_bind_eq_ok, Except.ok.injEq] at ran
      obtain ⟨-, -, -, -, rfl⟩ := ran
      exact .withdrawn target amount accepted
  | setMinStake newMinStake =>
      simp only [dispatch, setMinStake, require_bind_eq_ok, Except.ok.injEq] at ran
      obtain ⟨-, -, rfl⟩ := ran
      exact .staked newMinStake

theorem step_effect (step : (system deployment).Step world action next) :
    world.now ≤ action.1.timestamp ∧ next.now = action.1.timestamp ∧
      Effect deployment action.1 world action.2 next.storage.didByAgent := by
  have performed : perform deployment world action = some next := step
  simp only [perform, Option.ite_none_right_eq_some, Option.map_eq_some_iff,
    toOption_eq_some] at performed
  obtain ⟨later, after, ran, rfl⟩ := performed
  have effect := dispatch_effect ran
  exact ⟨later, rfl, effect⟩

theorem step_unique (step : (system deployment).Step world action next)
    (again : (system deployment).Step world action other) : next = other :=
  Option.some.inj (step.symm.trans again)

end Steps

end TrustChain.Kya
