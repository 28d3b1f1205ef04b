import TrustChain.Bilateral.System
import TrustChain.Registry.Operations

/-!
# KarmaAttestationGateway

The gateway in front of `KarmaBilateral.settle`: evidence, attestations, challenges, and the
gates of a settlement, in the order of the source. Its world holds the two contracts it
calls. Recovering a signer from a signature and hashing an attestation are parameters of
the deployment.
-/

namespace TrustChain.Gateway

open Library Function

/-- `MIN_CHALLENGE_WINDOW`. -/
def minChallengeWindow : Nat := 60 * 60

/-- `FAILED_ATTESTATION_BLOCK`. -/
def failedAttestationBlock : Nat := 1

structure Storage where
  challengeWindowDuration : Nat
  taskEvidence : Bytes32 → Bytes32 := fun _ => 0
  taskEvidenceCid : Bytes32 → String := fun _ => ""
  challengeEnd : Bytes32 → Nat := fun _ => 0
  challenged : Bytes32 → Bool := fun _ => false
  challengeUpheld : Bytes32 → Bool := fun _ => false
  challengeResolved : Bytes32 → Bool := fun _ => false
  attestationSubmitted : Bytes32 → Address → Bool := fun _ _ => false
  validAttestationCount : Bytes32 → Nat := fun _ => 0
  failAttestationCount : Bytes32 → Nat := fun _ => 0

/-- The errors of the gateway, and those it passes on from the contracts it calls. -/
inductive Error where
  | evidenceAlreadyPublished
  | verifierNotActive (verifier : Address)
  | attestationAlreadySubmitted (verifier : Address) (taskId : Bytes32)
  | invalidSignature
  | insufficientAttestations (valid required : Nat)
  | challengeWindowOpen
  | challengeAlreadyRaised
  | settlementBlocked
  | noActiveChallenge
  | challengeResolved
  | notArbitrator
  | taskNotFound
  | taskBindingMismatch (taskId : Bytes32) (bindingId : Nat) (bindingTaskId : Bytes32)
  | failedAttestationsBlock (failCount required : Nat)
  | challengeWindowTooShort (minimum provided : Nat)
  | panic
  | registry (error : Registry.Error)
  | bilateral (error : Bilateral.Error)

instance : ArithmeticPanic Error := ⟨.panic⟩

inductive Event where
  | evidencePublished (taskId evidenceHash : Bytes32) (cid : String)
  | attestationSubmitted (taskId : Bytes32) (verifier : Address) (valid : Bool)
  | settlementApproved (taskId : Bytes32) (bindingId : Nat) (proofHash : Bytes32)
  | challengeRaised (taskId : Bytes32) (challenger : Address) (reason evidenceCid : String)
  | challengeResolvedEvent (taskId : Bytes32) (upheld : Bool) (arbitrator : Address)
  | challengeWindowDurationUpdated (newDuration : Nat)

/-- What is fixed when the three contracts are deployed. The constructor of the gateway
asks for addresses other than zero; `attestationDigest` is the EIP-712 digest of a task, its
evidence and a verifier. -/
structure Deployment where
  bilateral : Bilateral.Deployment
  registry : Registry.Deployment
  self : Address
  arbitrator : Address
  registry_ne_zero : registry.self ≠ 0
  bilateral_ne_zero : bilateral.self ≠ 0
  arbitrator_ne_zero : arbitrator ≠ 0
  self_ne_zero : self ≠ 0
  self_ne_bilateral : self ≠ bilateral.self
  registry_ne_bilateral : registry.self ≠ bilateral.self
  attestationDigest : Bytes32 → Bytes32 → String → Address → Bytes32
  ecrecover : Bytes32 → UInt8 → Bytes32 → Bytes32 → Address

/-- Sender and block of a transaction. -/
structure Message where
  sender : Address
  timestamp : Nat
  timestamp_pos : 0 < timestamp

/-- How the contracts outside answer during one call. -/
structure Externals where
  bilateral : Bilateral.Externals := {}
  registry : Registry.Externals := {}

/-- The gateway and the two contracts it calls. The tokens are those of `bilateral`; `now` is
the block time that every contract sees. -/
structure World where
  storage : Storage
  bilateral : Bilateral.World := {}
  registry : Registry.Storage := {}
  registryEvents : List Registry.Event := []
  events : List Event := []
  now : Nat := 0

/-- The message the gateway sends on. -/
def Deployment.forward (deployment : Deployment) (msg : Message) :
    Bilateral.Message deployment.bilateral :=
  ⟨deployment.self, msg.timestamp, deployment.self_ne_zero, deployment.self_ne_bilateral,
    msg.timestamp_pos⟩

namespace World

def emit (world : World) (event : Event) : World :=
  { world with events := world.events ++ [event] }

/-- Call the registry, which sees the tokens of the world. -/
def callRegistry (world : World) (call : Registry.World → Except Registry.Error Registry.World) :
    Except Error World := do
  let called ← (call ⟨world.registry, world.bilateral.tokens, world.registryEvents⟩).mapError .registry
  .ok { world with
    registry := called.storage
    bilateral.tokens := called.tokens
    registryEvents := called.events }

end World

namespace Storage

/-- One more attestation of either kind. -/
def count (storage : Storage) (taskId : Bytes32) (valid : Bool) : Except Error Storage :=
  if valid then do
    let counts ← checkedCredit storage.validAttestationCount taskId 1
    .ok { storage with validAttestationCount := counts }
  else do
    let counts ← checkedCredit storage.failAttestationCount taskId 1
    .ok { storage with failAttestationCount := counts }

/-- Whether the challenge of a task, if there is one, leaves the way to settlement. -/
def requireUnchallenged (storage : Storage) (taskId : Bytes32) : Except Error Unit :=
  if storage.challenged taskId then do
    require (storage.challengeResolved taskId = true) .settlementBlocked
    require (storage.challengeUpheld taskId = false) .settlementBlocked
  else .ok ()

end Storage

section Functions

variable (deployment : Deployment) (ext : Externals) (msg : Message) (world : World)

def publishEvidence (taskId evidenceHash : Bytes32) (cid : String) : Except Error World := do
  require (world.storage.taskEvidence taskId = 0) .evidenceAlreadyPublished
  let challengeEnd ← checkedAdd msg.timestamp world.storage.challengeWindowDuration
  let storage := { world.storage with
    taskEvidence := update world.storage.taskEvidence taskId evidenceHash
    taskEvidenceCid := update world.storage.taskEvidenceCid taskId cid
    challengeEnd := update world.storage.challengeEnd taskId challengeEnd }
  .ok (World.emit { world with storage } (.evidencePublished taskId evidenceHash cid))

/-- The reward of a valid attestation, when one is configured. -/
def rewardAttestation (valid : Bool) : Except Error World :=
  let reward := world.registry.verificationReward
  if valid = true ∧ 0 < reward ∧ world.registry.stakingToken ≠ 0 then
    world.callRegistry fun registry =>
      Registry.rewardVerifier deployment.registry ext.registry deployment.self registry msg.sender reward
  else .ok world

def submitAttestation (taskId : Bytes32) (v : UInt8) (r s : Bytes32) (valid : Bool) :
    Except Error World := do
  let evidenceHash := world.storage.taskEvidence taskId
  require (evidenceHash ≠ 0) .taskNotFound
  require (world.registry.isActiveVerifier msg.sender = true) (.verifierNotActive msg.sender)
  require (world.storage.attestationSubmitted taskId msg.sender = false)
    (.attestationAlreadySubmitted msg.sender taskId)
  let digest := deployment.attestationDigest taskId evidenceHash (world.storage.taskEvidenceCid taskId)
    msg.sender
  let recovered := deployment.ecrecover digest v r s
  require (recovered = msg.sender ∧ recovered ≠ 0) .invalidSignature
  let submitted := update (world.storage.attestationSubmitted taskId) msg.sender true
  let storage := { world.storage with
    attestationSubmitted := update world.storage.attestationSubmitted taskId submitted }
  let storage ← storage.count taskId valid
  let world := { world with storage }
  let world ← world.callRegistry fun registry =>
    Registry.recordAttestation deployment.registry deployment.self registry msg.sender valid
  let world ← rewardAttestation deployment ext msg world valid
  .ok (world.emit (.attestationSubmitted taskId msg.sender valid))

/-- The gates of `settleWithAttestation`. -/
def requireSettleable (taskId : Bytes32) (bindingId : Nat) (proofHash : Bytes32) :
    Except Error Unit := do
  let storage := world.storage
  require (storage.taskEvidence taskId ≠ 0) .taskNotFound
  let boundTaskId := world.bilateral.storage.bindingTaskId bindingId
  require (boundTaskId = taskId) (.taskBindingMismatch taskId bindingId boundTaskId)
  -- The source reuses the signature error for a mismatch of hashes.
  require (storage.taskEvidence taskId = proofHash) .invalidSignature
  let required := world.registry.getRequiredThreshold
  let block ← checkedMul required failedAttestationBlock
  require (storage.failAttestationCount taskId < block)
    (.failedAttestationsBlock (storage.failAttestationCount taskId) required)
  require (required ≤ storage.validAttestationCount taskId)
    (.insufficientAttestations (storage.validAttestationCount taskId) required)
  require (storage.challengeEnd taskId ≤ msg.timestamp) .challengeWindowOpen
  storage.requireUnchallenged taskId

def settleWithAttestation (taskId : Bytes32) (bindingId : Nat) (proofHash : Bytes32) :
    Except Error World := do
  requireSettleable msg world taskId bindingId proofHash
  let bilateral ← (Bilateral.exec deployment.bilateral ext.bilateral (deployment.forward msg)
    (.settle bindingId proofHash) world.bilateral).mapError .bilateral
  .ok (World.emit { world with bilateral } (.settlementApproved taskId bindingId proofHash))

def raiseChallenge (taskId : Bytes32) (reason evidenceCid : String) : Except Error World := do
  require (world.storage.taskEvidence taskId ≠ 0) .taskNotFound
  require (msg.timestamp ≤ world.storage.challengeEnd taskId) .challengeWindowOpen
  require (world.storage.challenged taskId = false) .challengeAlreadyRaised
  let storage := { world.storage with challenged := update world.storage.challenged taskId true }
  .ok (World.emit { world with storage } (.challengeRaised taskId msg.sender reason evidenceCid))

def resolveChallenge (taskId : Bytes32) (upheld : Bool) : Except Error World := do
  require (msg.sender = deployment.arbitrator) .notArbitrator
  require (world.storage.challenged taskId = true) .noActiveChallenge
  require (world.storage.challengeResolved taskId = false) .challengeResolved
  let storage := { world.storage with
    challengeResolved := update world.storage.challengeResolved taskId true
    challengeUpheld := update world.storage.challengeUpheld taskId upheld }
  .ok (World.emit { world with storage } (.challengeResolvedEvent taskId upheld msg.sender))

def setChallengeWindowDuration (duration : Nat) : Except Error World := do
  require (msg.sender = deployment.arbitrator) .notArbitrator
  require (minChallengeWindow ≤ duration) (.challengeWindowTooShort minChallengeWindow duration)
  .ok (World.emit { world with storage.challengeWindowDuration := duration }
    (.challengeWindowDurationUpdated duration))

end Functions

/-! ## Views -/

namespace World

variable (world : World)

def isQuorumReached (taskId : Bytes32) : Bool :=
  world.registry.getRequiredThreshold ≤ world.storage.validAttestationCount taskId

/-- `isChallengeWindowOpen`, asked at `timestamp`. -/
def isChallengeWindowOpen (timestamp : Nat) (taskId : Bytes32) : Bool :=
  timestamp ≤ world.storage.challengeEnd taskId ∧ world.storage.taskEvidence taskId ≠ 0

def isChallengeWindowClosed (timestamp : Nat) (taskId : Bytes32) : Bool :=
  world.storage.challengeEnd taskId < timestamp ∧ world.storage.taskEvidence taskId ≠ 0

/-- `canSettleTask`, asked at `timestamp`. -/
def canSettleTask (timestamp : Nat) (taskId : Bytes32) : Bool :=
  world.storage.taskEvidence taskId ≠ 0 ∧
    world.isQuorumReached taskId ∧
    world.storage.failAttestationCount taskId < world.registry.getRequiredThreshold ∧
    world.storage.challengeEnd taskId ≤ timestamp ∧
    (world.storage.challenged taskId →
      world.storage.challengeResolved taskId ∧ ¬world.storage.challengeUpheld taskId)

/-- `canSettle`, asked at `timestamp`. -/
def canSettle (timestamp : Nat) (taskId proofHash : Bytes32) : Bool :=
  world.canSettleTask timestamp taskId ∧ world.storage.taskEvidence taskId = proofHash

end World

end TrustChain.Gateway
