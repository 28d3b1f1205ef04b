import TrustChain.Bilateral.Types
import TrustChain.Library.Transition

/-!
# KarmaReputationAnchor

The scores that the packer anchors on chain, and the reward weight they mint: storage, errors,
events and functions, in the order of the source.
-/

namespace TrustChain.ReputationAnchor

open Library Function

/-- `REHAB_WINDOW`: ninety days. -/
def rehabWindow : Nat := 90 * 24 * 60 * 60

def packMinScoreE2 : Nat := 20000
def dividendMinScoreE2 : Nat := 30000

structure Packed where
  scoreE2 : Nat := 0
  packedAt : Nat := 0
  successCount : Nat := 0
  evidenceHash : Bytes32 := 0
  lastSlashAt : Nat := 0
  lastSlashKind : Bytes32 := 0
  rewardWeight : Nat := 0
  packed : Bool := false
  deriving DecidableEq

structure Storage where
  packer : Address
  packedOf : Address → Packed := fun _ => {}
  totalRewardWeight : Nat := 0

inductive Error where
  | unauthorized
  | zeroAddress
  | scoreTooLow
  | alreadyPackedNewer
  | notPacked
  | panic
  deriving DecidableEq

instance : ArithmeticPanic Error := ⟨.panic⟩

inductive Event where
  | packerUpdated (packer : Address)
  | reputationPacked (party : Address) (scoreE2 successCount : Nat) (evidenceHash : Bytes32)
      (rewardWeight : Nat)
  | reputationSlashed (party : Address) (scoreE2 : Nat) (kind : Bytes32)
  | rewardWeightFrozen (party : Address) (untilTs : Nat)

structure World where
  storage : Storage
  events : List Event := []
  /-- The time of the last block with a call. -/
  now : Nat

/-- What is fixed at deployment. The time of a block is never zero. -/
structure Deployment where
  admin : Address
  deployedAt : Nat
  admin_ne_zero : admin ≠ 0
  deployedAt_pos : 0 < deployedAt

/-- The caller and the time of the block. -/
structure Message where
  sender : Address
  timestamp : Nat

namespace World

def emit (world : World) (event : Event) : World :=
  { world with events := world.events ++ [event] }

def setPacked (world : World) (party : Address) (packed : Packed) : World :=
  { world with storage.packedOf := update world.storage.packedOf party packed }

end World

section Functions

variable (deployment : Deployment) (msg : Message) (world : World)

def onlyAdmin : Except Error Unit := require (msg.sender = deployment.admin) .unauthorized

def onlyPacker : Except Error Unit :=
  require (msg.sender = world.storage.packer ∨ msg.sender = deployment.admin) .unauthorized

def setPacker (packer : Address) : Except Error World := do
  onlyAdmin deployment msg
  require (packer ≠ 0) .zeroAddress
  .ok (World.emit { world with storage.packer := packer } (.packerUpdated packer))

/-- Whether the rehabilitation after the last slash is still running. -/
def rehabilitating (p : Packed) (timestamp : Nat) : Except Error Bool :=
  if p.lastSlashAt = 0 then .ok false
  else do
    let end_ ← checkedAdd p.lastSlashAt rehabWindow
    .ok (decide (timestamp < end_))

/-- The weight that a score mints. -/
def mintable (p : Packed) (timestamp scoreE2 : Nat) : Except Error Nat :=
  if dividendMinScoreE2 ≤ scoreE2 then do
    let frozen ← rehabilitating p timestamp
    .ok (if frozen then 0 else scoreE2 / 100)
  else .ok 0

def pack (party : Address) (scoreE2 successCount : Nat) (evidenceHash : Bytes32) :
    Except Error World := do
  onlyPacker deployment msg world
  require (party ≠ 0) .zeroAddress
  require (packMinScoreE2 ≤ scoreE2) .scoreTooLow
  let p := world.storage.packedOf party
  require (¬(p.packed = true ∧ scoreE2 < p.scoreE2 ∧ p.lastSlashAt = 0)) .alreadyPackedNewer
  let minted ← mintable p msg.timestamp scoreE2
  let rewardWeight ← checkedAdd p.rewardWeight minted
  let totalRewardWeight ← checkedAdd world.storage.totalRewardWeight minted
  let world := { world with storage.totalRewardWeight := totalRewardWeight }
  let world := world.setPacked party { p with
    scoreE2, packedAt := msg.timestamp, successCount, evidenceHash, rewardWeight, packed := true }
  .ok (world.emit (.reputationPacked party scoreE2 successCount evidenceHash minted))

def slash (party : Address) (newScoreE2 : Nat) (kind : Bytes32) : Except Error World := do
  onlyPacker deployment msg world
  let p := world.storage.packedOf party
  require (p.packed = true) .notPacked
  let world := world.setPacked party { p with
    scoreE2 := newScoreE2, lastSlashAt := msg.timestamp, lastSlashKind := kind }
  let untilTs ← checkedAdd msg.timestamp rehabWindow
  .ok ((world.emit (.reputationSlashed party newScoreE2 kind)).emit
    (.rewardWeightFrozen party untilTs))

def isPacked (party : Address) : Bool := (world.storage.packedOf party).packed

def isDividendEligible (timestamp : Nat) (party : Address) : Except Error Bool :=
  let p := world.storage.packedOf party
  if p.packed = false ∨ p.scoreE2 < dividendMinScoreE2 then .ok false
  else if p.lastSlashAt = 0 then .ok true
  else do
    let end_ ← checkedAdd p.lastSlashAt rehabWindow
    .ok (decide (end_ ≤ timestamp))

end Functions

/-- The external functions that change the anchor. -/
inductive Call where
  | setPacker (packer : Address)
  | pack (party : Address) (scoreE2 successCount : Nat) (evidenceHash : Bytes32)
  | slash (party : Address) (newScoreE2 : Nat) (kind : Bytes32)
  deriving DecidableEq

def dispatch (deployment : Deployment) (msg : Message) (world : World) : Call → Except Error World
  | .setPacker packer => setPacker deployment msg world packer
  | .pack party scoreE2 successCount evidenceHash =>
      pack deployment msg world party scoreE2 successCount evidenceHash
  | .slash party newScoreE2 kind => slash deployment msg world party newScoreE2 kind

/-- Call the anchor, not before the last block with a call. -/
def perform (deployment : Deployment) (world : World) (action : Message × Call) : Option World :=
  if world.now ≤ action.1.timestamp then
    (dispatch deployment action.1 world action.2).toOption.map
      fun next => { next with now := action.1.timestamp }
  else none

/-- The anchor at its deployment, when the administrator is the packer. -/
def deployed (deployment : Deployment) : World where
  storage := { packer := deployment.admin }
  now := deployment.deployedAt

/-- Calls by anybody, one after the other. A call that reverts leaves no trace, so it is no
step. -/
def system (deployment : Deployment) : TransitionSystem World (Message × Call) where
  Init world := world = deployed deployment
  Step world action next := perform deployment world action = some next

/-! ## What a call leaves -/

/-- The party was slashed, and `rehabWindow` seconds have not passed since. -/
def Packed.Rehabilitating (p : Packed) (timestamp : Nat) : Prop :=
  p.lastSlashAt ≠ 0 ∧ timestamp < p.lastSlashAt + rehabWindow

instance (p : Packed) (timestamp : Nat) : Decidable (p.Rehabilitating timestamp) :=
  inferInstanceAs (Decidable (_ ∧ _))

/-- The weight that anchoring a score adds. -/
def Packed.minted (p : Packed) (timestamp scoreE2 : Nat) : Nat :=
  if dividendMinScoreE2 ≤ scoreE2 ∧ ¬p.Rehabilitating timestamp then scoreE2 / 100 else 0

def Packed.anchor (p : Packed) (timestamp scoreE2 successCount : Nat) (evidenceHash : Bytes32) :
    Packed :=
  { p with
    scoreE2, packedAt := timestamp, successCount, evidenceHash, packed := true
    rewardWeight := p.rewardWeight + p.minted timestamp scoreE2 }

def Packed.slash (p : Packed) (timestamp newScoreE2 : Nat) (kind : Bytes32) : Packed :=
  { p with scoreE2 := newScoreE2, lastSlashAt := timestamp, lastSlashKind := kind }

/-- What a call leaves of the packed scores and of the total weight. -/
inductive Effect (msg : Message) (storage : Storage) :
    Call → (Address → Packed) → Nat → Prop
  | appointed (packer : Address) :
      Effect msg storage (.setPacker packer) storage.packedOf storage.totalRewardWeight
  | packed (party : Address) (scoreE2 successCount : Nat) (evidenceHash : Bytes32) :
      ((storage.packedOf party).packed = true → (storage.packedOf party).lastSlashAt = 0 →
        (storage.packedOf party).scoreE2 ≤ scoreE2) →
      Effect msg storage (.pack party scoreE2 successCount evidenceHash)
        (update storage.packedOf party
          ((storage.packedOf party).anchor msg.timestamp scoreE2 successCount evidenceHash))
        (storage.totalRewardWeight + (storage.packedOf party).minted msg.timestamp scoreE2)
  | slashed (party : Address) (newScoreE2 : Nat) (kind : Bytes32) :
      (storage.packedOf party).packed = true → msg.timestamp + rehabWindow < wordSize →
      Effect msg storage (.slash party newScoreE2 kind)
        (update storage.packedOf party
          ((storage.packedOf party).slash msg.timestamp newScoreE2 kind))
        storage.totalRewardWeight

section Steps

variable {deployment : Deployment} {msg : Message} {world next other : World} {call : Call}
  {action : Message × Call}

theorem mintable_ok {p : Packed} {timestamp scoreE2 minted : Nat}
    (ran : mintable p timestamp scoreE2 = .ok minted) : minted = p.minted timestamp scoreE2 := by
  unfold mintable rehabilitating at ran
  unfold Packed.minted Packed.Rehabilitating
  split at ran
  case isTrue enough =>
    split at ran
    case isTrue never =>
      obtain rfl := Except.ok.inj ran
      simp [enough, never]
    case isFalse slashed =>
      simp only [bind_assoc, ok_bind, checkedAdd_bind_eq_ok, Except.ok.injEq,
        decide_eq_true_eq] at ran
      obtain ⟨-, rfl⟩ := ran
      by_cases frozen : timestamp < p.lastSlashAt + rehabWindow <;> simp [enough, slashed, frozen]
  case isFalse low =>
    obtain rfl := Except.ok.inj ran
    simp [low]

theorem dispatch_effect (ran : dispatch deployment msg world call = .ok next) :
    Effect msg world.storage call next.storage.packedOf next.storage.totalRewardWeight := by
  cases call with
  | setPacker packer =>
      simp only [dispatch, setPacker, onlyAdmin, require_bind_eq_ok, Except.ok.injEq] at ran
      obtain ⟨-, -, rfl⟩ := ran
      exact .appointed packer
  | pack party scoreE2 successCount evidenceHash =>
      simp only [dispatch, pack, onlyPacker, require_bind_eq_ok] at ran
      obtain ⟨-, -, -, newer, ran⟩ := ran
      simp only [bind_eq_ok, checkedAdd_eq_ok, Except.ok.injEq] at ran
      obtain ⟨minted, mints, _, ⟨-, rfl⟩, _, ⟨-, rfl⟩, rfl⟩ := ran
      obtain rfl := mintable_ok mints
      refine .packed party scoreE2 successCount evidenceHash fun already unslashed => ?_
      by_contra lower
      exact newer ⟨already, Nat.lt_of_not_le lower, unslashed⟩
  | slash party newScoreE2 kind =>
      simp only [dispatch, slash, onlyPacker, require_bind_eq_ok, checkedAdd_bind_eq_ok,
        Except.ok.injEq] at ran
      obtain ⟨-, already, fits, rfl⟩ := ran
      exact .slashed party newScoreE2 kind already fits

theorem step_effect (step : (system deployment).Step world action next) :
    world.now ≤ action.1.timestamp ∧ next.now = action.1.timestamp ∧
      Effect action.1 world.storage action.2 next.storage.packedOf
        next.storage.totalRewardWeight := by
  have performed : perform deployment world action = some next := step
  simp only [perform, Option.ite_none_right_eq_some, Option.map_eq_some_iff,
    toOption_eq_some] at performed
  obtain ⟨later, after, ran, rfl⟩ := performed
  have effect := dispatch_effect ran
  exact ⟨later, rfl, effect⟩

theorem step_unique (step : (system deployment).Step world action next)
    (again : (system deployment).Step world action other) : next = other :=
  Option.some.inj (step.symm.trans again)

end Steps

end TrustChain.ReputationAnchor
