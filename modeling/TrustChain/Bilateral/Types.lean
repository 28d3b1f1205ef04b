import TrustChain.Library.Erc20

/-!
# Data of KarmaBilateral

The records, the two life cycles, the errors and the events of the contract, under
the names of the source. Amounts, identifiers and times are natural numbers; the
operations check every addition, subtraction and product against the 256-bit word
wherever the source does.
-/

namespace TrustChain

/-- `address`, the zero address being `0`. -/
abbrev Address := BitVec 160

/-- `bytes32`. -/
abbrev Bytes32 := BitVec 256

namespace Bilateral

open Library

/-- Life cycle of a bill: locked, frozen in a binding, or gone. -/
inductive BillState where
  | minted
  | bound
  | burned
  deriving DecidableEq

/-- Life cycle of a binding. -/
inductive BindingState where
  | active
  | pending
  | finalizing
  | settled
  | disputed
  | refunded
  deriving DecidableEq

/-- Whether both bills of a binding in this state are still frozen. -/
def BindingState.live : BindingState → Bool
  | .active | .pending | .finalizing | .disputed => true
  | .settled | .refunded => false

structure BillToken where
  billId : Nat := 0
  owner : Address := 0
  token : Address := 0
  amount : Nat := 0
  state : BillState := .minted
  mintedAt : Nat := 0
  deriving DecidableEq

structure Binding where
  bindingId : Nat := 0
  buyerBillId : Nat := 0
  agentBillId : Nat := 0
  scopeHash : Bytes32 := 0
  state : BindingState := .active
  createdAt : Nat := 0
  settleAfter : Nat := 0
  proofHash : Bytes32 := 0
  settleSubmittedAt : Nat := 0
  disputedAt : Nat := 0
  disputeInitiator : Address := 0
  deriving DecidableEq

structure ArbitrationRecord where
  buyerEvidenceHash : Bytes32 := 0
  agentEvidenceHash : Bytes32 := 0
  buyerSubmittedAt : Nat := 0
  agentSubmittedAt : Nat := 0
  startedAt : Nat := 0
  resolved : Bool := false
  deriving DecidableEq

structure Authorization where
  authId : Nat := 0
  «from» : Address := 0
  «to» : Address := 0
  token : Address := 0
  amount : Nat := 0
  accepted : Bool := false
  createdAt : Nat := 0
  expiresAt : Nat := 0
  deriving DecidableEq

inductive ServiceCategory where
  | none
  | softwareDevelopment
  | designCreative
  | logisticsDelivery
  | consultingAdvisory
  | contentCreation
  | manufacturing
  | realEstateServices
  | financialServices
  | marketingAdvertising
  | educationTraining
  | healthcareMedical
  | legalCompliance
  | customService
  deriving DecidableEq

/-- `Types.IntentPackage`. Binding reads the parties, the amounts, the expiry, the
service type and the verifier; the whole package is stored and hashed. -/
structure IntentPackage where
  buyer : Address := 0
  seller : Address := 0
  serviceType : Bytes32 := 0
  serviceCategory : ServiceCategory := .none
  requirements : List UInt8 := []
  amount : Nat := 0
  penaltyRate : Nat := 0
  deadline : Nat := 0
  expiresAt : Nat := 0
  proofSchema : Bytes32 := 0
  requiredProofFields : List Bytes32 := []
  verifier : Address := 0
  disputeWindow : Nat := 0
  paymentSpecHash : Bytes32 := 0
  deliverySpecHash : Bytes32 := 0
  breachSpecHash : Bytes32 := 0
  qualitySpecHash : Bytes32 := 0
  disputeSpecHash : Bytes32 := 0
  fullDocumentHash : Bytes32 := 0
  schemaVersion : Bytes32 := 0
  gracePeriod : Nat := 0
  curePeriod : Nat := 0
  acceptanceWindow : Nat := 0
  milestoneAmounts : List Nat := []
  milestoneIds : List Bytes32 := []
  milestoneDeadlines : List Nat := []
  maxPenalty : Nat := 0
  deliverables : List Bytes32 := []
  qualityStandard : Bytes32 := 0
  breachDefinitions : Bytes32 := 0
  maxCureAttempts : UInt8 := 0
  allowPartialSettlement : Bool := false
  bindingArbitration : Bool := false
  sellerMustStake : Bool := false
  buyerMustStake : Bool := false
  arbitrators : List Address := []

/-- The errors of the contract. `panic` is a failed arithmetic check, and
`externalCallFailed` a revert that a called contract passes up. -/
inductive Error where
  | zeroAmount
  | zeroAddress
  | tokenNotAllowed
  | notBillOwner (billId : Nat)
  | wrongBillState (billId : Nat) (expected actual : BillState)
  | wrongBindingState (bindingId : Nat) (expected actual : BindingState)
  | billNotMinted (billId : Nat)
  | bindingNotFound (bindingId : Nat)
  | buyerAgentSameAddress
  | transferFailed
  | invariantBroken (token : Address) (supply locked : Nat)
  | perAddressInvariantBroken (addr : Address) (free bound minted : Nat)
  | reentrancy
  | unauthorized
  | fundsFrozen (scope until_ : Nat)
  | invalidAddress
  | invalidSplit
  | attestationRequired (bindingId : Nat)
  | gatewayNotSet
  | settleDelayActive (endsAt : Nat)
  | finalizeWindowOpen (endsAt : Nat)
  | disputeWindowClosed (closedAt : Nat)
  | noDisputeAccess (bindingId : Nat)
  | disputeNotExpired (bindingId : Nat)
  | evidenceWindowClosed (bindingId : Nat)
  | arbitrationNotStarted (bindingId : Nat)
  | arbitrationAlreadyResolved (bindingId : Nat)
  | largeDisputeRequiresAdmin (bindingId totalPool : Nat)
  | teeNotImplemented
  | zkNotImplemented
  | insufficientFreeBalance (addr : Address) (available requested : Nat)
  | authorizationNotFound (authId : Nat)
  | authorizationAlreadyAccepted (authId : Nat)
  | authorizationExpired (authId : Nat)
  | notAuthorizationRecipient (authId : Nat)
  | intentPartyMismatch (party : String)
  | intentAmountMismatch (intent buyer agent : Nat)
  | intentExpired (expiredAt : Nat)
  | panic
  | externalCallFailed

instance : ArithmeticPanic Error := ⟨.panic⟩

inductive Event where
  | billMinted (billId : Nat) (owner token : Address) (amount : Nat)
  | billBurned (billId : Nat) (owner : Address) (amount : Nat) (reason : String)
  | billsBound (bindingId buyerBillId agentBillId : Nat) (scopeHash : Bytes32)
  | bindingSettled (bindingId : Nat) (proofHash : Bytes32) (buyerAmount agentAmount : Nat)
  | bindingRefunded (bindingId buyerAmount agentAmount : Nat)
  | disputeResolved (bindingId buyerShareBps : Nat)
  | batchThresholdUpdated (token : Address) (threshold : Nat)
  | tokenAllowed (token : Address) (allowed : Bool)
  | invariantChecked (token : Address) (supply locked : Nat)
  | attestationGatewayUpdated (gateway : Address)
  | treasuryUpdated (treasury : Address)
  | feeBridgeUpdated (feeBridge : Address)
  | bindingDeveloperUpdated (bindingId : Nat) (developer : Address)
  | disputeWindowUpdated (seconds : Nat)
  | optimisticDisputeWindowUpdated (seconds : Nat)
  | evidenceWindowUpdated (seconds : Nat)
  | autoArbitrationThresholdUpdated (amount : Nat)
  | settleTimeoutUpdated (seconds : Nat)
  | largeDisputeTimeoutUpdated (seconds : Nat)
  | feeCappedToHardCeiling (bindingId quotedFee cappedFee : Nat)
  | attestationBindingRegistered (bindingId : Nat) (taskId : Bytes32)
  | intentBound (bindingId buyerBillId agentBillId : Nat) (intentHash : Bytes32)
  | settleSubmitted (bindingId : Nat) (proofHash : Bytes32) (finalizeAfter : Nat)
  | settleFinalized (bindingId : Nat) (proofHash : Bytes32)
  | disputeRaised (bindingId : Nat) (initiator : Address) (evidenceHash : Bytes32)
  | arbitrationEvidenceSubmitted (bindingId : Nat) (submitter : Address) (evidenceHash : Bytes32)
  | arbitrationAutoResolved (bindingId : Nat) (buyerWon : Bool) (buyerShare : Nat)
  | authorizationCreated (authId : Nat) («from» «to» : Address) (amount : Nat)
  | authorizationAccepted (authId : Nat) («from» «to» : Address)
  | authorizationCancelled (authId : Nat) («from» : Address)
  | emergencyGuardUpdated (guard : Address)

/-- A call the contract makes on an ERC-20 token. -/
abbrev TokenCall := Erc20.OwnCall Address Address

end Bilateral

end TrustChain
