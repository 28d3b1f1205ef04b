import TrustChain.Bilateral.Storage

/-!
# Operations of KarmaBilateral

The payout routines and the entry points, in the order of the source. Every function
fails or returns the world it leaves behind; those that return an identifier in the
source return it here as well.
-/

namespace TrustChain.Bilateral

open Library Function Storage

/-- `MAX_FEE_BPS`: the ceiling on a quoted fee, in basis points. -/
def maxFeeBps : Nat := 1000

section Payouts

variable (deployment : Deployment) (ext : Externals)

/-- What every payout routine does to the bookkeeping: take both bills out of the
owners' bound balances, burn them, and lower the pending amount of their token. -/
def retireBills (world : World) (b : Binding) (reason : String) : Except Error World := do
  let buyerBill := world.storage.bills b.buyerBillId
  let agentBill := world.storage.bills b.agentBillId
  let storage ← world.storage.decrementBound buyerBill.owner buyerBill.amount
  let storage ← storage.decrementBound agentBill.owner agentBill.amount
  let world := { world with storage := storage }
  let world ← world.burnBill b.buyerBillId buyerBill reason
  let world ← world.burnBill b.agentBillId agentBill reason
  let totalPool ← checkedAdd buyerBill.amount agentBill.amount
  let pending ← checkedDebit world.storage.pendingBatchAmount buyerBill.token totalPool
  .ok { world with storage.pendingBatchAmount := pending }

/-- The checks at the end of every payout routine. -/
def checkPayout (world : World) (token buyerOwner agentOwner : Address) :
    Except Error World := do
  let world ← world.checkInvariant token
  world.storage.checkPerAddressInvariant buyerOwner
  world.storage.checkPerAddressInvariant agentOwner
  .ok world

/-- `_collectEconomyFee`: the fee to keep back, and the world after the bridge ran. -/
def collectEconomyFee (world : World) (bindingId : Nat) (token developer : Address)
    (amountUsdc : Nat) : Except Error (Nat × World) :=
  let feeBridge := world.storage.config.feeBridge
  let quoted := (ext.quoteFee developer amountUsdc).getD 0
  if feeBridge = 0 ∨ amountUsdc = 0 then .ok (0, world)
  else if quoted = 0 then
    -- The zero-fee record is best effort: a failed call only loses its own effects.
    .ok (0, if ext.collects then reenter deployment world ext.reentries else world)
  else do
    let wanted := if amountUsdc < quoted then amountUsdc else quoted
    let scaled ← checkedMul amountUsdc maxFeeBps
    let feeCeiling := scaled / 10000
    let fee := if feeCeiling < wanted then feeCeiling else wanted
    let world := if feeCeiling < wanted then
      world.emit (.feeCappedToHardCeiling bindingId wanted feeCeiling) else world
    require (ext.approves token = true) .transferFailed
    let world := world.approve deployment token feeBridge fee
    require (ext.collects = true) .transferFailed
    .ok (fee, reenter deployment world ext.reentries)

/-- `_executeSettle`: the pool less the fee goes to the agent. -/
def executeSettle (world : World) (bindingId : Nat) (proofHash : Bytes32) :
    Except Error World := do
  requirePayoutNotFrozen ext world.storage bindingId
  let b := world.storage.bindings bindingId
  let buyerBill := world.storage.bills b.buyerBillId
  let agentBill := world.storage.bills b.agentBillId
  let world := { world with
    storage := world.storage.setBinding bindingId { b with state := .settled, proofHash := proofHash } }
  let world ← retireBills world b "settled"
  let totalPool ← checkedAdd buyerBill.amount agentBill.amount
  let attributed := world.storage.config.bindingDeveloper bindingId
  let developer := if attributed = 0 then agentBill.owner else attributed
  let (fee, world) ← collectEconomyFee deployment ext world bindingId buyerBill.token developer totalPool
  let sellerPayout := if fee < totalPool then totalPool - fee else 0
  let world ← world.transferPositive deployment ext buyerBill.token agentBill.owner sellerPayout
  let world ← checkPayout world buyerBill.token buyerBill.owner agentBill.owner
  .ok ((world.emit (.settleFinalized bindingId proofHash)).emit
    (.bindingSettled bindingId proofHash 0 sellerPayout))

/-- `_executeRefund`: each bill goes back to its owner. -/
def executeRefund (world : World) (bindingId : Nat) : Except Error World := do
  let b := world.storage.bindings bindingId
  let buyerBill := world.storage.bills b.buyerBillId
  let agentBill := world.storage.bills b.agentBillId
  let world := { world with storage := world.storage.setBinding bindingId { b with state := .refunded } }
  let world ← retireBills world b "refunded"
  let world ← world.transfer deployment ext buyerBill.token buyerBill.owner buyerBill.amount
  let world ← world.transfer deployment ext buyerBill.token agentBill.owner agentBill.amount
  checkPayout world buyerBill.token buyerBill.owner agentBill.owner

/-- A split that gives the whole pool to the buyer is not subject to a freeze. -/
def requireSplitNotFrozen (storage : Storage) (bindingId buyerShareBps : Nat) : Except Error Unit :=
  if buyerShareBps < 10000 then requirePayoutNotFrozen ext storage bindingId else .ok ()

/-- `_executeSplit`: the pool is divided by basis points, rounded towards the agent. -/
def executeSplit (world : World) (bindingId buyerShareBps : Nat) : Except Error World := do
  requireSplitNotFrozen ext world.storage bindingId buyerShareBps
  let b := world.storage.bindings bindingId
  let buyerBill := world.storage.bills b.buyerBillId
  let agentBill := world.storage.bills b.agentBillId
  let totalPool ← checkedAdd buyerBill.amount agentBill.amount
  let scaled ← checkedMul totalPool buyerShareBps
  let buyerPayout := scaled / 10000
  let agentPayout ← checkedSub totalPool buyerPayout
  let world := { world with storage := world.storage.setBinding bindingId { b with state := .settled } }
  let world ← retireBills world b "dispute-resolved"
  let world ← world.transferPositive deployment ext buyerBill.token buyerBill.owner buyerPayout
  let world ← world.transferPositive deployment ext buyerBill.token agentBill.owner agentPayout
  let world ← checkPayout world buyerBill.token buyerBill.owner agentBill.owner
  .ok ((world.emit (.disputeResolved bindingId buyerShareBps)).emit
    (.bindingSettled bindingId 0 buyerPayout agentPayout))

end Payouts

section EntryPoints

variable (deployment : Deployment) (ext : Externals) (msg : Message deployment) (world : World)

def lock (token : Address) (amount : Nat) : Except Error (Nat × World) := do
  let world ← world.enter
  require (world.storage.config.tokenAllowed token = true) .tokenNotAllowed
  require (amount ≠ 0) .zeroAmount
  require (token ≠ 0) .zeroAddress
  let world ← world.transferFrom deployment ext token msg.sender amount
  let storage := world.storage
  let billId := storage.billCounter + 1
  let bill : BillToken :=
    { billId, owner := msg.sender, token, amount, state := .minted, mintedAt := msg.timestamp }
  let locked ← checkedCredit storage.totalLocked token amount
  let supply ← checkedCredit storage.totalBillSupply token amount
  let free ← checkedCredit storage.freeBalance msg.sender amount
  let minted ← checkedCredit storage.totalMintedByAddr msg.sender amount
  let lockedBy ← checkedCredit storage.totalLockedByAddr msg.sender amount
  let world := { world with
    storage := { storage with
      billCounter := billId
      bills := update storage.bills billId bill
      ownerBills := update storage.ownerBills msg.sender (storage.ownerBills msg.sender ++ [billId])
      totalLocked := locked
      totalBillSupply := supply
      freeBalance := free
      totalMintedByAddr := minted
      totalLockedByAddr := lockedBy } }
  let world ← world.checkInvariant token
  world.storage.checkPerAddressInvariant msg.sender
  .ok (billId, (world.emit (.billMinted billId msg.sender token amount)).leave)

/-- The checks the three bind variants share. -/
def requireBindable (buyerBillId agentBillId : Nat) : Except Error Unit := do
  let buyerBill ← world.storage.requireBill buyerBillId
  let agentBill ← world.storage.requireBill agentBillId
  require (buyerBill.owner = msg.sender) (.notBillOwner buyerBillId)
  requireBillState buyerBillId buyerBill.state .minted
  requireBillState agentBillId agentBill.state .minted
  require (buyerBill.token = agentBill.token) .tokenNotAllowed
  require (buyerBill.owner ≠ agentBill.owner) .buyerAgentSameAddress

/-- The part the three bind variants share: freeze both bills under a new binding that
has to be attested for `task`, if one is given, and raise the counters. -/
def openBinding (buyerBillId agentBillId : Nat) (scopeHash : Bytes32) (task : Option Bytes32)
    (intent : Option IntentPackage) : Except Error (Nat × World) := do
  let storage := world.storage
  let buyerBill := storage.bills buyerBillId
  let agentBill := storage.bills agentBillId
  let bindingId := storage.bindingCounter + 1
  let settleAfter ← checkedAdd msg.timestamp storage.config.disputeWindowSeconds
  let b : Binding :=
    { bindingId, buyerBillId, agentBillId, scopeHash, state := .active,
      createdAt := msg.timestamp, settleAfter }
  let pool ← checkedAdd buyerBill.amount agentBill.amount
  let pending ← checkedCredit storage.pendingBatchAmount buyerBill.token pool
  let storage := { storage with
    bills := update (update storage.bills buyerBillId { buyerBill with state := .bound })
      agentBillId { agentBill with state := .bound }
    bindingCounter := bindingId
    bindings := update storage.bindings bindingId b
    intentPackages := writeSome storage.intentPackages bindingId intent
    requiresAttestation := writeSome storage.requiresAttestation bindingId (task.map fun _ => true)
    bindingTaskId := writeSome storage.bindingTaskId bindingId task
    pendingBatchAmount := pending }
  let storage ← storage.moveFreeToBound buyerBill.owner buyerBill.amount
  let storage ← storage.moveFreeToBound agentBill.owner agentBill.amount
  let threshold := storage.config.batchThreshold buyerBill.token
  let full : Bool := 0 < threshold ∧ threshold ≤ storage.pendingBatchAmount buyerBill.token
  let storage := storage.setBinding bindingId
    { b with state := if full then .pending else .active }
  .ok (bindingId, World.emit { world with storage := storage }
    (.billsBound bindingId buyerBillId agentBillId scopeHash))

def bind (buyerBillId agentBillId : Nat) (scopeHash : Bytes32) : Except Error (Nat × World) := do
  let world ← world.enter
  requireBindable deployment msg world buyerBillId agentBillId
  let (bindingId, world) ←
    openBinding deployment msg world buyerBillId agentBillId scopeHash none none
  .ok (bindingId, world.leave)

def bindWithAttestation (buyerBillId agentBillId : Nat) (scopeHash taskId : Bytes32) :
    Except Error (Nat × World) := do
  let world ← world.enter
  require (world.storage.config.attestationGateway ≠ 0) .gatewayNotSet
  require (taskId ≠ 0) .zeroAmount
  requireBindable deployment msg world buyerBillId agentBillId
  let (bindingId, world) ←
    openBinding deployment msg world buyerBillId agentBillId scopeHash (some taskId) none
  .ok (bindingId, (world.emit (.attestationBindingRegistered bindingId taskId)).leave)

def bindWithIntent (intent : IntentPackage) (buyerBillId agentBillId : Nat) :
    Except Error (Nat × World) := do
  let world ← world.enter
  requireBindable deployment msg world buyerBillId agentBillId
  let buyerBill := world.storage.bills buyerBillId
  let agentBill := world.storage.bills agentBillId
  require (intent.buyer = buyerBill.owner) (.intentPartyMismatch "buyer")
  require (intent.seller = agentBill.owner) (.intentPartyMismatch "seller")
  let scaled ← checkedMul intent.amount intent.penaltyRate
  let sellerStake := scaled / 10000
  require (intent.amount = buyerBill.amount ∧ sellerStake = agentBill.amount)
    (.intentAmountMismatch intent.amount buyerBill.amount agentBill.amount)
  require (msg.timestamp ≤ intent.expiresAt) (.intentExpired intent.expiresAt)
  require (intent.serviceType ≠ 0) .zeroAmount
  let intentHash := deployment.hashIntent intent
  let (bindingId, world) ← openBinding deployment msg world buyerBillId agentBillId intentHash
    (if intent.verifier ≠ 0 then some intentHash else none) (some intent)
  .ok (bindingId, (world.emit (.intentBound bindingId buyerBillId agentBillId intentHash)).leave)

def settle (bindingId : Nat) (proofHash : Bytes32) : Except Error World := do
  let world ← world.enter
  let b ← world.storage.requireBinding bindingId
  require (b.state = .active ∨ b.state = .pending) (.wrongBindingState bindingId .active b.state)
  let buyerBill := world.storage.bills b.buyerBillId
  let agentBill := world.storage.bills b.agentBillId
  if world.storage.requiresAttestation bindingId then
    require (msg.sender = world.storage.config.attestationGateway) (.attestationRequired bindingId)
    let world ← executeSettle deployment ext world bindingId proofHash
    .ok world.leave
  else
    require (msg.sender = buyerBill.owner ∨ msg.sender = agentBill.owner)
      (.noDisputeAccess bindingId)
    require (b.state = .active → b.settleAfter ≤ msg.timestamp) (.settleDelayActive b.settleAfter)
    let world := { world with
      storage := world.storage.setBinding bindingId
        { b with
          state := .finalizing
          proofHash := proofHash
          settleSubmittedAt := msg.timestamp } }
    let finalizeAfter ← checkedAdd msg.timestamp world.storage.config.disputeWindow
    .ok (world.emit (.settleSubmitted bindingId proofHash finalizeAfter)).leave

/-- The checks of `finalizeSettle`, up to its payout. -/
def requireFinalizable (bindingId : Nat) : Except Error Binding := do
  let b ← world.storage.requireBinding bindingId
  require (b.state = .finalizing) (.wrongBindingState bindingId .finalizing b.state)
  let windowEnd ← checkedAdd b.settleSubmittedAt world.storage.config.disputeWindow
  require (windowEnd ≤ msg.timestamp) (.finalizeWindowOpen windowEnd)
  .ok b

def finalizeSettle (bindingId : Nat) : Except Error World := do
  let world ← world.enter
  let b ← requireFinalizable deployment msg world bindingId
  let world ← executeSettle deployment ext world bindingId b.proofHash
  .ok world.leave

def dispute (bindingId : Nat) (evidenceHash : Bytes32) : Except Error World := do
  let world ← world.enter
  let b ← world.storage.requireBinding bindingId
  require (b.state = .finalizing) (.wrongBindingState bindingId .finalizing b.state)
  let windowEnd ← checkedAdd b.settleSubmittedAt world.storage.config.disputeWindow
  require (msg.timestamp < windowEnd) (.disputeWindowClosed windowEnd)
  let buyerBill := world.storage.bills b.buyerBillId
  require (msg.sender = buyerBill.owner) (.noDisputeAccess bindingId)
  let storage := world.storage.setBinding bindingId
    { b with state := .disputed, disputedAt := msg.timestamp, disputeInitiator := msg.sender }
  let storage := storage.setArbitration bindingId
    { buyerEvidenceHash := evidenceHash
      buyerSubmittedAt := msg.timestamp
      startedAt := msg.timestamp }
  .ok (World.emit { world with storage := storage }
    (.disputeRaised bindingId msg.sender evidenceHash)).leave

def submitArbitrationEvidence (bindingId : Nat) (evidenceHash : Bytes32) : Except Error World := do
  let world ← world.enter
  let b ← world.storage.requireBinding bindingId
  require (b.state = .disputed) (.wrongBindingState bindingId .disputed b.state)
  let arb := world.storage.arbitrations bindingId
  require (arb.startedAt ≠ 0) (.arbitrationNotStarted bindingId)
  require (arb.resolved = false) (.arbitrationAlreadyResolved bindingId)
  let windowEnd ← checkedAdd arb.startedAt world.storage.config.evidenceWindow
  require (msg.timestamp < windowEnd) (.evidenceWindowClosed bindingId)
  let buyerBill := world.storage.bills b.buyerBillId
  let agentBill := world.storage.bills b.agentBillId
  require (msg.sender = buyerBill.owner ∨ msg.sender = agentBill.owner) (.noDisputeAccess bindingId)
  let arb :=
    if msg.sender = buyerBill.owner then
      { arb with buyerEvidenceHash := evidenceHash, buyerSubmittedAt := msg.timestamp }
    else
      { arb with agentEvidenceHash := evidenceHash, agentSubmittedAt := msg.timestamp }
  .ok (World.emit { world with storage := world.storage.setArbitration bindingId arb }
    (.arbitrationEvidenceSubmitted bindingId msg.sender evidenceHash)).leave

/-- A large dispute waits for the administrator until its timeout has passed. -/
def requireAdminTimeout (bindingId totalPool windowEnd : Nat) : Except Error Unit :=
  if world.storage.config.autoArbitrationThreshold ≤ totalPool then do
    let adminEnd ← checkedAdd windowEnd world.storage.config.largeDisputeTimeoutSeconds
    require (adminEnd ≤ msg.timestamp) (.largeDisputeRequiresAdmin bindingId totalPool)
  else .ok ()

/-- The four rows of the auto-resolution table. -/
def autoOutcome (bindingId : Nat) (proofHash : Bytes32) (buyerSubmitted agentSubmitted : Bool) :
    Except Error World :=
  if agentSubmitted && !buyerSubmitted then
    executeSettle deployment ext
      (world.emit (.arbitrationAutoResolved bindingId false 0)) bindingId proofHash
  else if buyerSubmitted && !agentSubmitted then
    executeSplit deployment ext
      (world.emit (.arbitrationAutoResolved bindingId true 10000)) bindingId 10000
  else if !buyerSubmitted && !agentSubmitted then
    executeRefund deployment ext
      (world.emit (.arbitrationAutoResolved bindingId true 10000)) bindingId
  else
    executeSplit deployment ext
      (world.emit (.arbitrationAutoResolved bindingId false 5000)) bindingId 5000

def autoResolveArbitration (bindingId : Nat) : Except Error World := do
  let world ← world.enter
  let b ← world.storage.requireBinding bindingId
  require (b.state = .disputed) (.wrongBindingState bindingId .disputed b.state)
  let arb := world.storage.arbitrations bindingId
  require (arb.startedAt ≠ 0) (.arbitrationNotStarted bindingId)
  require (arb.resolved = false) (.arbitrationAlreadyResolved bindingId)
  let windowEnd ← checkedAdd arb.startedAt world.storage.config.evidenceWindow
  require (windowEnd ≤ msg.timestamp) (.finalizeWindowOpen windowEnd)
  let totalPool ← checkedAdd (world.storage.bills b.buyerBillId).amount
    (world.storage.bills b.agentBillId).amount
  requireAdminTimeout deployment msg world bindingId totalPool windowEnd
  let world := { world with
    storage := world.storage.setArbitration bindingId { arb with resolved := true } }
  let world ← autoOutcome deployment ext world bindingId b.proofHash
    (decide (arb.buyerSubmittedAt ≠ 0)) (decide (arb.agentSubmittedAt ≠ 0))
  .ok world.leave

/-- A stub in the source: it always reverts. -/
def settleWithTEE (_bindingId : Nat) (_proofHash : Bytes32) (_teeAttestation : List UInt8) :
    Except Error World := do
  let _ ← world.enter
  .error .teeNotImplemented

/-- A stub in the source: it always reverts. -/
def settleWithZKProof (_bindingId : Nat) (_proofHash : Bytes32) (_zkProof : List UInt8) :
    Except Error World := do
  let _ ← world.enter
  .error .zkNotImplemented

def resolveDispute (bindingId buyerShareBps : Nat) : Except Error World := do
  let world ← world.enter
  require (msg.sender = deployment.admin) .unauthorized
  require (buyerShareBps ≤ 10000) .invalidSplit
  let b ← world.storage.requireBinding bindingId
  require (b.state = .disputed) (.wrongBindingState bindingId .disputed b.state)
  let arb := world.storage.arbitrations bindingId
  let storage := if arb.startedAt ≠ 0 then
    world.storage.setArbitration bindingId { arb with resolved := true } else world.storage
  let world := World.emit { world with storage := storage } (.disputeResolved bindingId buyerShareBps)
  let world ← executeSplit deployment ext world bindingId buyerShareBps
  .ok world.leave

def refundOnTimeout (bindingId : Nat) : Except Error World := do
  let world ← world.enter
  let b ← world.storage.requireBinding bindingId
  require (b.state = .active ∨ b.state = .pending) (.wrongBindingState bindingId .active b.state)
  let timeout ← checkedAdd b.createdAt world.storage.config.settleTimeoutSeconds
  require (timeout ≤ msg.timestamp) (.disputeNotExpired bindingId)
  let buyerBill := world.storage.bills b.buyerBillId
  let agentBill := world.storage.bills b.agentBillId
  require (msg.sender = buyerBill.owner) (.notBillOwner b.buyerBillId)
  let world ← executeRefund deployment ext world bindingId
  .ok (world.emit (.bindingRefunded bindingId buyerBill.amount agentBill.amount)).leave

def unlock (billId : Nat) : Except Error World := do
  let world ← world.enter
  let bill ← world.storage.requireBill billId
  require (bill.owner = msg.sender) (.notBillOwner billId)
  requireBillState billId bill.state .minted
  let storage := world.storage
  require (bill.amount ≤ storage.freeBalance msg.sender)
    (.insufficientFreeBalance msg.sender (storage.freeBalance msg.sender) bill.amount)
  let free ← checkedDebit storage.freeBalance msg.sender bill.amount
  let lockedBy ← checkedDebit storage.totalLockedByAddr msg.sender bill.amount
  let minted ← checkedDebit storage.totalMintedByAddr msg.sender bill.amount
  let world := { world with
    storage := { storage with
      freeBalance := free
      totalLockedByAddr := lockedBy
      totalMintedByAddr := minted } }
  let world ← world.burnBill billId bill "unlocked"
  let world ← world.transfer deployment ext bill.token msg.sender bill.amount
  let world ← world.checkInvariant bill.token
  world.storage.checkPerAddressInvariant msg.sender
  .ok world.leave

def authorize (token : Address) (amount : Nat) («to» : Address) (expiresAt : Nat) :
    Except Error (Nat × World) := do
  let world ← world.enter
  let storage := world.storage
  require (storage.config.tokenAllowed token = true) .tokenNotAllowed
  require (amount ≠ 0) .zeroAmount
  require («to» ≠ 0) .zeroAddress
  require (amount ≤ storage.freeBalance msg.sender)
    (.insufficientFreeBalance msg.sender (storage.freeBalance msg.sender) amount)
  let free ← checkedDebit storage.freeBalance msg.sender amount
  let authId := storage.authCounter + 1
  let world := { world with
    storage := { storage with
      freeBalance := free
      authCounter := authId
      authorizations := update storage.authorizations authId
        { authId, «from» := msg.sender, «to» := «to», token, amount, accepted := false,
          createdAt := msg.timestamp, expiresAt }
      pendingAuths := update storage.pendingAuths msg.sender
        (storage.pendingAuths msg.sender ++ [authId]) } }
  world.storage.checkPerAddressInvariant msg.sender
  .ok (authId, (world.emit (.authorizationCreated authId msg.sender «to» amount)).leave)

def accept (authId : Nat) : Except Error World := do
  let world ← world.enter
  let storage := world.storage
  let auth ← storage.requireAuth authId
  require (auth.to = msg.sender) (.notAuthorizationRecipient authId)
  require (auth.accepted = false) (.authorizationAlreadyAccepted authId)
  require (auth.expiresAt ≠ 0 → msg.timestamp ≤ auth.expiresAt) (.authorizationExpired authId)
  let bound ← checkedCredit storage.boundBalance auth.from auth.amount
  let free ← checkedCredit storage.freeBalance auth.to auth.amount
  let minted ← checkedCredit storage.totalMintedByAddr auth.to auth.amount
  let lockedBy ← checkedCredit storage.totalLockedByAddr auth.to auth.amount
  let world := { world with
    storage := { storage with
      authorizations := update storage.authorizations authId { auth with accepted := true }
      boundBalance := bound
      freeBalance := free
      totalMintedByAddr := minted
      totalLockedByAddr := lockedBy } }
  world.storage.checkPerAddressInvariant auth.from
  world.storage.checkPerAddressInvariant auth.to
  .ok (world.emit (.authorizationAccepted authId auth.from auth.to)).leave

def cancelAuthorization (authId : Nat) : Except Error World := do
  let world ← world.enter
  let storage := world.storage
  let auth ← storage.requireAuth authId
  require (auth.from = msg.sender) .unauthorized
  require (auth.accepted = false) (.authorizationAlreadyAccepted authId)
  let free ← checkedCredit storage.freeBalance msg.sender auth.amount
  let world := { world with
    storage := { storage with
      authorizations := update storage.authorizations authId { auth with accepted := true }
      freeBalance := free } }
  world.storage.checkPerAddressInvariant msg.sender
  .ok (world.emit (.authorizationCancelled authId auth.from)).leave

end EntryPoints

end TrustChain.Bilateral
