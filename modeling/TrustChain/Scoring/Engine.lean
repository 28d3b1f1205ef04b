import TrustChain.Bilateral.Types
import TrustChain.Library.Transition

/-!
# ScoringEngine

The score vectors of sellers, buyers and verifiers: storage, errors, events and functions, in the
order of the source. What an update does to one vector stands by itself; the update of a party
that is not registered is skipped.
-/

namespace TrustChain.Scoring

open Library Function

/-- `MAX_SCORE`: the ceiling, in basis points. -/
def maxScore : Nat := 10000

def defaultScore : Nat := 5000
def settleWeight : Nat := 20
def disputeWeight : Nat := 50
def penaltyWeight : Nat := 100

inductive PartyType where
  | supplier | buyer | verifier
  deriving DecidableEq

/-- `Types.ScoringVector`. -/
structure ScoringVector where
  totalTransactions : Nat := 0
  reputationScore : Nat := 0
  completionRate : Nat := 0
  avgCompletionSpeed : Nat := 0
  disputeRate : Nat := 0
  disputeWinRate : Nat := 0
  penaltyCount : Nat := 0
  confirmationSpeed : Nat := 0
  maliciousDisputeRate : Nat := 0
  verificationAccuracy : Nat := 0
  verificationVolume : Nat := 0
  slashedCount : Nat := 0
  lastUpdated : Nat := 0
  deriving DecidableEq

structure Storage where
  authorizedSettler : Address := 0
  scores : Address → ScoringVector := fun _ => {}
  partyTypes : Address → PartyType := fun _ => .supplier

inductive Error where
  | unauthorized
  | zeroAddress
  | panic
  deriving DecidableEq

instance : ArithmeticPanic Error := ⟨.panic⟩

inductive Event where
  | scoreVectorUpdated (party : Address)
  | partyRegistered (party : Address) (pType : PartyType)
  | authorizedSettlerUpdated (settler : Address)

structure World where
  storage : Storage := {}
  events : List Event := []

/-- What is fixed at deployment. -/
structure Deployment where
  admin : Address
  admin_ne_zero : admin ≠ 0

/-- The caller and the time of the block. -/
structure Message where
  sender : Address
  timestamp : Nat

/-! ## Arithmetic of scores -/

/-- `_boundedAdd`. -/
def boundedAdd (current delta : Nat) : Except Error Nat := do
  let result ← checkedAdd current delta
  .ok (if maxScore < result then maxScore else result)

/-- `_decayScore`. -/
def decayScore (current weight : Nat) : Nat := if weight < current then current - weight else 0

/-- `_rollingAvg`. -/
def rollingAvg (currentAvg newValue totalCount : Nat) : Except Error Nat :=
  if totalCount ≤ 1 then .ok newValue
  else do
    let old ← checkedMul currentAvg (totalCount - 1)
    let sum ← checkedAdd old newValue
    .ok (sum / totalCount)

/-- A count of transactions, one at least. -/
def atLeastOne (count : Nat) : Nat := if 0 < count then count else 1

/-- The sample of a success or a failure. -/
def sample (success : Bool) : Nat := if success then maxScore else 0

/-! ## Updates of one vector -/

namespace ScoringVector

variable (sv : ScoringVector) (timestamp : Nat)

/-- `_updateSellerSettlement`, for a registered seller. -/
def settleSeller (onTime : Bool) (speedRatio : Nat) : Except Error ScoringVector := do
  let totalTransactions ← checkedAdd sv.totalTransactions 1
  let completionRate ← rollingAvg sv.completionRate (sample onTime) totalTransactions
  let avgCompletionSpeed ← rollingAvg sv.avgCompletionSpeed speedRatio totalTransactions
  let reputationScore ← boundedAdd sv.reputationScore (if onTime then settleWeight else 0)
  .ok { sv with
    totalTransactions, completionRate, avgCompletionSpeed, reputationScore
    lastUpdated := timestamp }

/-- `_updateBuyerSettlement`, for a registered buyer. -/
def settleBuyer : Except Error ScoringVector := do
  let totalTransactions ← checkedAdd sv.totalTransactions 1
  let reputationScore ← boundedAdd sv.reputationScore (settleWeight / 2)
  .ok { sv with totalTransactions, reputationScore, lastUpdated := timestamp }

/-- `_updateVerifierSettlement`, for a registered verifier. -/
def settleVerifier (verifiedCorrectly : Bool) : Except Error ScoringVector := do
  let verificationVolume ← checkedAdd sv.verificationVolume 1
  let verificationAccuracy ←
    rollingAvg sv.verificationAccuracy (sample verifiedCorrectly) verificationVolume
  let reputationScore ←
    boundedAdd sv.reputationScore (if verifiedCorrectly then settleWeight else 0)
  .ok { sv with
    verificationVolume, verificationAccuracy, reputationScore, lastUpdated := timestamp }

/-- The penalty or the reputation of a seller after a dispute. -/
def judgeSeller (won wasPenalty : Bool) : Except Error ScoringVector :=
  if wasPenalty then do
    let penaltyCount ← checkedAdd sv.penaltyCount 1
    .ok { sv with
      penaltyCount, reputationScore := decayScore sv.reputationScore penaltyWeight }
  else if won then do
    let reputationScore ← boundedAdd sv.reputationScore (disputeWeight / 2)
    .ok { sv with reputationScore }
  else .ok { sv with reputationScore := decayScore sv.reputationScore disputeWeight }

/-- `_updateSellerDispute`, for a registered seller. -/
def disputeSeller (won wasPenalty : Bool) : Except Error ScoringVector := do
  let count ← checkedAdd sv.totalTransactions 1
  let disputeRate ← rollingAvg sv.disputeRate maxScore count
  let disputeWinRate ←
    rollingAvg sv.disputeWinRate (sample won) (atLeastOne sv.totalTransactions)
  let sv ← judgeSeller { sv with disputeRate, disputeWinRate } won wasPenalty
  .ok { sv with lastUpdated := timestamp }

/-- `_updateBuyerDispute`, for a registered buyer. -/
def disputeBuyer (won : Bool) : Except Error ScoringVector :=
  if won then .ok { sv with lastUpdated := timestamp }
  else do
    let maliciousDisputeRate ←
      rollingAvg sv.maliciousDisputeRate maxScore (atLeastOne sv.totalTransactions)
    .ok { sv with
      maliciousDisputeRate
      reputationScore := decayScore sv.reputationScore disputeWeight
      lastUpdated := timestamp }

/-- What a slash makes of the vector of a verifier. -/
def slashVerifier : Except Error ScoringVector := do
  let slashedCount ← checkedAdd sv.slashedCount 1
  .ok { sv with
    slashedCount
    verificationAccuracy := decayScore sv.verificationAccuracy penaltyWeight
    reputationScore := decayScore sv.reputationScore penaltyWeight
    lastUpdated := timestamp }

/-- What a confirmation makes of the vector of a buyer. `_computeComposite`, by which the
reputation is stored again, answers the stored one. -/
def confirmBuyer (speedRatio : Nat) : Except Error ScoringVector := do
  let confirmationSpeed ← rollingAvg sv.confirmationSpeed speedRatio sv.totalTransactions
  .ok { sv with confirmationSpeed, lastUpdated := timestamp }

end ScoringVector

namespace World

def emit (world : World) (event : Event) : World :=
  { world with events := world.events ++ [event] }

def setVector (world : World) (party : Address) (sv : ScoringVector) : World :=
  { world with storage.scores := update world.storage.scores party sv }

/-- Store what an update makes of the vector of a party. -/
def rescore (world : World) (party : Address)
    (change : ScoringVector → Except Error ScoringVector) : Except Error World := do
  let sv ← change (world.storage.scores party)
  .ok ((world.setVector party sv).emit (.scoreVectorUpdated party))

/-- The same for a registered party; any other is skipped. -/
def rescoreRegistered (world : World) (party : Address)
    (change : ScoringVector → Except Error ScoringVector) : Except Error World :=
  if (world.storage.scores party).lastUpdated = 0 then .ok world else world.rescore party change

/-- There is no verifier at the zero address. -/
def rescoreVerifier (world : World) (timestamp : Nat) (verifier : Address) (correct : Bool) :
    Except Error World :=
  if verifier = 0 then .ok world
  else world.rescoreRegistered verifier fun sv => sv.settleVerifier timestamp correct

end World

section Functions

variable (deployment : Deployment) (msg : Message) (world : World)

def onlyAdmin : Except Error Unit := require (msg.sender = deployment.admin) .unauthorized

def onlySettler : Except Error Unit :=
  require (msg.sender = world.storage.authorizedSettler) .unauthorized

def setAuthorizedSettler (settler : Address) : Except Error World := do
  onlyAdmin deployment msg
  .ok (World.emit { world with storage.authorizedSettler := settler }
    (.authorizedSettlerUpdated settler))

/-- The vector of a party that has just been registered. -/
def freshVector (timestamp : Nat) : ScoringVector where
  reputationScore := defaultScore
  completionRate := defaultScore
  avgCompletionSpeed := defaultScore
  disputeWinRate := defaultScore
  confirmationSpeed := defaultScore
  verificationAccuracy := defaultScore
  lastUpdated := timestamp

def registerParty (party : Address) (pType : PartyType) : Except Error World := do
  onlyAdmin deployment msg
  require (party ≠ 0) .zeroAddress
  let partyTypes := update world.storage.partyTypes party pType
  let world := { world with storage.partyTypes := partyTypes }
  .ok ((world.setVector party (freshVector msg.timestamp)).emit (.partyRegistered party pType))

def recordSettlement (seller buyer verifier : Address) (completedOnTime : Bool)
    (speedRatio : Nat) : Except Error World := do
  onlySettler msg world
  let world ← world.rescoreRegistered seller fun sv =>
    sv.settleSeller msg.timestamp completedOnTime speedRatio
  let world ← world.rescoreRegistered buyer fun sv => sv.settleBuyer msg.timestamp
  world.rescoreVerifier msg.timestamp verifier true

def recordDisputeResolution (seller buyer verifier : Address) (sellerWon wasPenalty : Bool) :
    Except Error World := do
  onlySettler msg world
  let world ← world.rescoreRegistered seller fun sv =>
    sv.disputeSeller msg.timestamp sellerWon wasPenalty
  let world ← world.rescoreRegistered buyer fun sv => sv.disputeBuyer msg.timestamp !sellerWon
  world.rescoreVerifier msg.timestamp verifier sellerWon

def recordVerifierSlashed (verifier : Address) : Except Error World := do
  onlyAdmin deployment msg
  world.rescore verifier fun sv => sv.slashVerifier msg.timestamp

def recordBuyerConfirmation (buyer : Address) (speedRatio : Nat) : Except Error World := do
  onlySettler msg world
  world.rescore buyer fun sv => sv.confirmBuyer msg.timestamp speedRatio

end Functions

/-- The external functions that change the engine. -/
inductive Call where
  | setAuthorizedSettler (settler : Address)
  | registerParty (party : Address) (pType : PartyType)
  | recordSettlement (seller buyer verifier : Address) (completedOnTime : Bool) (speedRatio : Nat)
  | recordDisputeResolution (seller buyer verifier : Address) (sellerWon wasPenalty : Bool)
  | recordVerifierSlashed (verifier : Address)
  | recordBuyerConfirmation (buyer : Address) (speedRatio : Nat)

def dispatch (deployment : Deployment) (msg : Message) (world : World) : Call → Except Error World
  | .setAuthorizedSettler settler => setAuthorizedSettler deployment msg world settler
  | .registerParty party pType => registerParty deployment msg world party pType
  | .recordSettlement seller buyer verifier completedOnTime speedRatio =>
      recordSettlement msg world seller buyer verifier completedOnTime speedRatio
  | .recordDisputeResolution seller buyer verifier sellerWon wasPenalty =>
      recordDisputeResolution msg world seller buyer verifier sellerWon wasPenalty
  | .recordVerifierSlashed verifier => recordVerifierSlashed deployment msg world verifier
  | .recordBuyerConfirmation buyer speedRatio => recordBuyerConfirmation msg world buyer speedRatio

/-- Call the engine. -/
def perform (deployment : Deployment) (world : World) (action : Message × Call) : Option World :=
  (dispatch deployment action.1 world action.2).toOption

/-- Calls by anybody, one after the other. A call that reverts leaves no trace, so it is no
step. -/
def system (deployment : Deployment) : TransitionSystem World (Message × Call) where
  Init world := world = {}
  Step world action next := perform deployment world action = some next

end TrustChain.Scoring
