import TrustChain.Bilateral.Types

/-!
# VerifierRegistry

The registry of verifiers: storage, errors, events and functions, in the order of the
source. Its calls of the staking token ignore the returned flag, as the source does, so a
token that refuses by returning `false` goes unnoticed.
-/

namespace TrustChain.Registry

open Library Function

structure VerifierInfo where
  wallet : Address := 0
  endpointUrl : String := ""
  active : Bool := false
  stakeAmount : Nat := 0
  successCount : Nat := 0
  falseAttestationCount : Nat := 0
  totalEarnings : Nat := 0
  slashedAmount : Nat := 0
  deriving DecidableEq

structure Storage where
  authorizedCallers : Address → Bool := fun _ => false
  defaultThreshold : Nat := 3
  defaultTotalVerifiers : Nat := 5
  verifiers : Address → VerifierInfo := fun _ => {}
  verifierList : List Address := []
  stakingToken : Address := 0
  minStake : Nat := 0
  verificationReward : Nat := 0

inductive Error where
  | unauthorized
  | verifierAlreadyRegistered
  | verifierNotFound
  | invalidAddress
  | invalidThreshold
  | thresholdExceedsTotal
  | insufficientStake
  | stakingTokenNotSet
  | panic
  | externalCallFailed
  deriving DecidableEq

instance : ArithmeticPanic Error := ⟨.panic⟩

inductive Event where
  | verifierRegistered (wallet : Address) (endpointUrl : String) (stakeAmount : Nat)
  | verifierRemoved (wallet : Address)
  | thresholdsUpdated (newThreshold newTotalVerifiers : Nat)
  | verifierSuspended (wallet : Address)
  | verifierActivated (wallet : Address)
  | attestationRecorded (verifier : Address) (success : Bool)
  | verifierStaked (verifier : Address) (amount total : Nat)
  | verifierUnstaked (verifier : Address) (amount remaining : Nat)
  | verifierSlashed (verifier : Address) (amount : Nat) (reason : String)
  | verifierRewarded (verifier : Address) (amount : Nat)
  | stakingConfigUpdated (minStake reward : Nat)
  | authorizedCallerUpdated (caller : Address) (allowed : Bool)

/-- The storage, the tokens the registry can call, and the log. -/
structure World where
  storage : Storage := {}
  tokens : Address → Erc20 Address := fun _ => .empty
  events : List Event := []

/-- What is fixed at deployment: the contract's own address and the administrator. -/
structure Deployment where
  self : Address
  admin : Address
  admin_ne_zero : admin ≠ 0

/-- How the staking token answers: the transfers it declines although its ledger would
allow them, and whether it signals that by reverting or by returning `false`. -/
structure Externals where
  refuses : Address → Address → Address → Bool := fun _ _ _ => false
  refusalReverts : Address → Bool := fun _ => true

namespace World

def emit (world : World) (event : Event) : World :=
  { world with events := world.events ++ [event] }

def setVerifier (world : World) (wallet : Address) (info : VerifierInfo) : World :=
  { world with storage.verifiers := update world.storage.verifiers wallet info }

/-- A transfer by the staking token, given the ledger it would leave. There is no token at
the zero address. -/
def callToken (ext : Externals) (world : World) (token source target : Address)
    (moved : Option (Erc20 Address)) : Except Error World :=
  if token = 0 then .error .externalCallFailed
  else
    match (if ext.refuses token source target then none else moved) with
    | some ledger => .ok { world with tokens := update world.tokens token ledger }
    | none => if ext.refusalReverts token then .error .externalCallFailed else .ok world

/-- `IStakingToken(token).transferFrom(source, address(this), amount)`. -/
def transferFrom (deployment : Deployment) (ext : Externals) (world : World)
    (token source : Address) (amount : Nat) : Except Error World :=
  world.callToken ext token source deployment.self
    ((world.tokens token).transferFrom deployment.self source deployment.self amount)

/-- `IStakingToken(token).transfer(target, amount)`. -/
def transfer (deployment : Deployment) (ext : Externals) (world : World)
    (token target : Address) (amount : Nat) : Except Error World :=
  world.callToken ext token deployment.self target
    ((world.tokens token).transfer deployment.self target amount)

end World

namespace Storage

def isActiveVerifier (storage : Storage) (wallet : Address) : Bool :=
  (storage.verifiers wallet).wallet ≠ 0 ∧ (storage.verifiers wallet).active

def getRequiredThreshold (storage : Storage) : Nat := storage.defaultThreshold

/-- `_activeCount`: a wallet counts once for every entry in the list. -/
def activeCount (storage : Storage) : Nat :=
  storage.verifierList.countP fun wallet => (storage.verifiers wallet).active

end Storage

section Functions

variable (deployment : Deployment) (ext : Externals) (sender : Address) (world : World)

def onlyAdmin : Except Error Unit := require (sender = deployment.admin) .unauthorized

def onlyAuthorizedCaller : Except Error Unit :=
  require (sender = deployment.admin ∨ world.storage.authorizedCallers sender = true) .unauthorized

def requireVerifier (wallet : Address) : Except Error VerifierInfo := do
  require ((world.storage.verifiers wallet).wallet ≠ 0) .verifierNotFound
  .ok (world.storage.verifiers wallet)

def setAuthorizedCaller (caller : Address) (allowed : Bool) : Except Error World := do
  onlyAdmin deployment sender
  require (caller ≠ 0) .invalidAddress
  let callers := update world.storage.authorizedCallers caller allowed
  .ok (World.emit { world with storage.authorizedCallers := callers }
    (.authorizedCallerUpdated caller allowed))

def registerVerifier (wallet : Address) (endpointUrl : String) (stakeAmount : Nat) :
    Except Error World := do
  onlyAdmin deployment sender
  require (wallet ≠ 0) .invalidAddress
  require ((world.storage.verifiers wallet).wallet = 0) .verifierAlreadyRegistered
  let world := world.setVerifier wallet { wallet, endpointUrl, active := true, stakeAmount }
  let world := { world with storage.verifierList := world.storage.verifierList ++ [wallet] }
  let world := world.emit (.verifierRegistered wallet endpointUrl stakeAmount)
  let activeCount := world.storage.activeCount
  if world.storage.defaultTotalVerifiers < activeCount then
    .ok (World.emit { world with storage.defaultTotalVerifiers := activeCount }
      (.thresholdsUpdated world.storage.defaultThreshold activeCount))
  else
    .ok world

def removeVerifier (wallet : Address) : Except Error World := do
  onlyAdmin deployment sender
  let _ ← requireVerifier world wallet
  .ok ((world.setVerifier wallet {}).emit (.verifierRemoved wallet))

def suspendVerifier (wallet : Address) : Except Error World := do
  onlyAdmin deployment sender
  let v ← requireVerifier world wallet
  .ok ((world.setVerifier wallet { v with active := false }).emit (.verifierSuspended wallet))

def activateVerifier (wallet : Address) : Except Error World := do
  onlyAdmin deployment sender
  let v ← requireVerifier world wallet
  .ok ((world.setVerifier wallet { v with active := true }).emit (.verifierActivated wallet))

def setThresholds (threshold totalVerifiers : Nat) : Except Error World := do
  onlyAdmin deployment sender
  require (threshold ≠ 0 ∧ totalVerifiers ≠ 0) .invalidThreshold
  require (threshold ≤ totalVerifiers) .thresholdExceedsTotal
  let storage := { world.storage with
    defaultThreshold := threshold, defaultTotalVerifiers := totalVerifiers }
  .ok (World.emit { world with storage } (.thresholdsUpdated threshold totalVerifiers))

/-- One more attestation of either kind. -/
def VerifierInfo.record (v : VerifierInfo) (success : Bool) : Except Error VerifierInfo :=
  if success then do
    let successCount ← checkedAdd v.successCount 1
    .ok { v with successCount }
  else do
    let falseAttestationCount ← checkedAdd v.falseAttestationCount 1
    .ok { v with falseAttestationCount }

def recordAttestation (verifier : Address) (success : Bool) : Except Error World := do
  onlyAuthorizedCaller deployment sender world
  let v ← requireVerifier world verifier
  let v ← v.record success
  .ok ((world.setVerifier verifier v).emit (.attestationRecorded verifier success))

def setStakingConfig (token : Address) (minStake reward : Nat) : Except Error World := do
  onlyAdmin deployment sender
  let storage := { world.storage with stakingToken := token, minStake, verificationReward := reward }
  .ok (World.emit { world with storage } (.stakingConfigUpdated minStake reward))

def stake (amount : Nat) : Except Error World := do
  let token := world.storage.stakingToken
  require (token ≠ 0) .stakingTokenNotSet
  let v ← requireVerifier world sender
  let world ← world.transferFrom deployment ext token sender amount
  let stakeAmount ← checkedAdd v.stakeAmount amount
  .ok ((world.setVerifier sender { v with stakeAmount }).emit
    (.verifierStaked sender amount stakeAmount))

def unstake (amount : Nat) : Except Error World := do
  let v ← requireVerifier world sender
  let kept ← checkedAdd amount world.storage.minStake
  require (kept ≤ v.stakeAmount) .insufficientStake
  let stakeAmount ← checkedSub v.stakeAmount amount
  let world := world.setVerifier sender { v with stakeAmount }
  let world ← world.transfer deployment ext world.storage.stakingToken sender amount
  .ok (world.emit (.verifierUnstaked sender amount stakeAmount))

def slash (verifier : Address) (amount : Nat) (reason : String) : Except Error World := do
  onlyAdmin deployment sender
  let v ← requireVerifier world verifier
  let amount := if v.stakeAmount < amount then v.stakeAmount else amount
  let stakeAmount ← checkedSub v.stakeAmount amount
  let slashedAmount ← checkedAdd v.slashedAmount amount
  let active := if stakeAmount < world.storage.minStake then false else v.active
  .ok ((world.setVerifier verifier { v with stakeAmount, slashedAmount, active }).emit
    (.verifierSlashed verifier amount reason))

/-- The payment of a reward, when there is one to pay. -/
def payReward (verifier : Address) (v : VerifierInfo) (amount : Nat) : Except Error World :=
  let token := world.storage.stakingToken
  if 0 < amount ∧ token ≠ 0 then do
    let world ← world.transfer deployment ext token verifier amount
    let totalEarnings ← checkedAdd v.totalEarnings amount
    .ok (world.setVerifier verifier { v with totalEarnings })
  else .ok world

def rewardVerifier (verifier : Address) (amount : Nat) : Except Error World := do
  onlyAuthorizedCaller deployment sender world
  let v ← requireVerifier world verifier
  let world ← payReward deployment ext world verifier v amount
  .ok (world.emit (.verifierRewarded verifier amount))

end Functions

/-- The external functions that change the registry. -/
inductive Call where
  | setAuthorizedCaller (caller : Address) (allowed : Bool)
  | registerVerifier (wallet : Address) (endpointUrl : String) (stakeAmount : Nat)
  | removeVerifier (wallet : Address)
  | suspendVerifier (wallet : Address)
  | activateVerifier (wallet : Address)
  | setThresholds (threshold totalVerifiers : Nat)
  | recordAttestation (verifier : Address) (success : Bool)
  | setStakingConfig (token : Address) (minStake reward : Nat)
  | stake (amount : Nat)
  | unstake (amount : Nat)
  | slash (verifier : Address) (amount : Nat) (reason : String)
  | rewardVerifier (verifier : Address) (amount : Nat)

def dispatch (deployment : Deployment) (ext : Externals) (sender : Address) (world : World) :
    Call → Except Error World
  | .setAuthorizedCaller caller allowed =>
      setAuthorizedCaller deployment sender world caller allowed
  | .registerVerifier wallet endpointUrl stakeAmount =>
      registerVerifier deployment sender world wallet endpointUrl stakeAmount
  | .removeVerifier wallet => removeVerifier deployment sender world wallet
  | .suspendVerifier wallet => suspendVerifier deployment sender world wallet
  | .activateVerifier wallet => activateVerifier deployment sender world wallet
  | .setThresholds threshold totalVerifiers =>
      setThresholds deployment sender world threshold totalVerifiers
  | .recordAttestation verifier success =>
      recordAttestation deployment sender world verifier success
  | .setStakingConfig token minStake reward =>
      setStakingConfig deployment sender world token minStake reward
  | .stake amount => stake deployment ext sender world amount
  | .unstake amount => unstake deployment ext sender world amount
  | .slash verifier amount reason => slash deployment sender world verifier amount reason
  | .rewardVerifier verifier amount => rewardVerifier deployment ext sender world verifier amount

/-! ## Tokens -/

section Tokens

variable {deployment : Deployment} {ext : Externals} {sender : Address} {world next : World}

/-- What the registry does to the tokens: nothing, or one call of its own. -/
inductive Moves (deployment : Deployment) (tokens : Address → Erc20 Address) :
    (Address → Erc20 Address) → Prop
  | none : Moves deployment tokens tokens
  | call (token : Address) (operation : Erc20.Operation Address) (ledger : Erc20 Address) :
      operation.caller = some deployment.self →
      (tokens token).run operation = some ledger →
      Moves deployment tokens (update tokens token ledger)

theorem callToken_moves {token source target : Address} (operation : Erc20.Operation Address)
    (own : operation.caller = some deployment.self)
    (called : world.callToken ext token source target ((world.tokens token).run operation) = .ok next) :
    Moves deployment world.tokens next.tokens := by
  unfold World.callToken at called
  split at called
  · cases called
  · split at called
    · next ledger moved =>
        cases called
        split at moved
        · cases moved
        · exact .call token operation ledger own moved
    · split at called
      · cases called
      · cases called
        exact .none

theorem transfer_moves {token target : Address} {amount : Nat}
    (called : world.transfer deployment ext token target amount = .ok next) :
    Moves deployment world.tokens next.tokens :=
  callToken_moves (.transfer deployment.self target amount) rfl called

theorem transferFrom_moves {token source : Address} {amount : Nat}
    (called : world.transferFrom deployment ext token source amount = .ok next) :
    Moves deployment world.tokens next.tokens :=
  callToken_moves (.transferFrom deployment.self source deployment.self amount) rfl called

theorem payReward_moves {verifier : Address} {v : VerifierInfo} {amount : Nat}
    (ran : payReward deployment ext world verifier v amount = .ok next) :
    Moves deployment world.tokens next.tokens := by
  simp only [payReward] at ran
  split at ran
  · simp only [bind_eq_ok, checkedAdd_eq_ok, Except.ok.injEq] at ran
    obtain ⟨paid, transferred, _, -, rfl⟩ := ran
    have moved := transfer_moves transferred
    exact moved
  · cases ran
    exact .none

theorem recordAttestation_tokens {verifier : Address} {success : Bool}
    (ran : recordAttestation deployment sender world verifier success = .ok next) :
    next.tokens = world.tokens := by
  simp only [recordAttestation, bind_eq_ok, Except.ok.injEq] at ran
  obtain ⟨_, -, v, -, recorded, -, rfl⟩ := ran
  rfl

theorem rewardVerifier_moves {verifier : Address} {amount : Nat}
    (ran : rewardVerifier deployment ext sender world verifier amount = .ok next) :
    Moves deployment world.tokens next.tokens := by
  simp only [rewardVerifier, bind_eq_ok, Except.ok.injEq] at ran
  obtain ⟨_, -, _, -, paid, ran, rfl⟩ := ran
  have moved := payReward_moves ran
  exact moved

theorem dispatch_moves {call : Call}
    (ran : dispatch deployment ext sender world call = .ok next) :
    Moves deployment world.tokens next.tokens := by
  cases call with
  | setAuthorizedCaller | removeVerifier | suspendVerifier | activateVerifier =>
      simp only [dispatch, setAuthorizedCaller, removeVerifier, suspendVerifier, activateVerifier,
        bind_eq_ok, Except.ok.injEq] at ran
      obtain ⟨_, -, _, -, rfl⟩ := ran
      exact .none
  | registerVerifier wallet endpointUrl stakeAmount =>
      simp only [dispatch, registerVerifier, bind_eq_ok] at ran
      obtain ⟨_, -, _, -, _, -, ran⟩ := ran
      split at ran <;> cases ran <;> exact .none
  | setThresholds threshold totalVerifiers =>
      simp only [dispatch, setThresholds, bind_eq_ok, Except.ok.injEq] at ran
      obtain ⟨_, -, _, -, _, -, rfl⟩ := ran
      exact .none
  | recordAttestation verifier success =>
      rw [recordAttestation_tokens ran]
      exact .none
  | setStakingConfig token minStake reward =>
      simp only [dispatch, setStakingConfig, bind_eq_ok, Except.ok.injEq] at ran
      obtain ⟨_, -, rfl⟩ := ran
      exact .none
  | stake amount =>
      simp only [dispatch, stake, bind_eq_ok, Except.ok.injEq] at ran
      obtain ⟨_, -, _, -, paid, transferred, _, -, rfl⟩ := ran
      have moved := transferFrom_moves transferred
      exact moved
  | unstake amount =>
      simp only [dispatch, unstake, bind_eq_ok, Except.ok.injEq] at ran
      obtain ⟨_, -, _, -, _, -, _, -, paid, transferred, rfl⟩ := ran
      have moved := transfer_moves transferred
      exact moved
  | slash verifier amount reason =>
      simp only [dispatch, slash, bind_eq_ok, Except.ok.injEq] at ran
      obtain ⟨_, -, _, -, _, -, _, -, rfl⟩ := ran
      exact .none
  | rewardVerifier verifier amount => exact rewardVerifier_moves ran

end Tokens

end TrustChain.Registry
