import TrustChain.Service.Types

/-!
# The capacity ledger

The credits of an identity in their buckets, the checks that every write ends with, the two
routes that lock and release, and the two routines by which disputes and resolutions move
credits.
-/

namespace TrustChain.Service

open Library

/-! ## Checks -/

namespace Capacity

variable (state : Capacity)

def activeCredits : ℚ :=
  state.availableCredits + state.reservedCredits + state.inProgressCredits +
    state.confirmedProgressCredits + state.disputedCredits + state.pendingSettlementCredits

/-- The credits in the responsibility buckets: all but the available ones. -/
def responsibilityCredits : ℚ :=
  state.reservedCredits + state.inProgressCredits + state.confirmedProgressCredits +
    state.disputedCredits + state.pendingSettlementCredits

end Capacity

def assertCanReleaseLockedFunds (state : Capacity) (amount : ℚ) : Except HttpError Unit := do
  require (0 < amount) ⟨409, "release amount must be > 0"⟩
  require (amount ≤ state.availableCredits + epsilon) ⟨409, "insufficient available credits"⟩
  require (state.responsibilityCredits ≤ epsilon)
    ⟨409, "cannot release locked funds while bill credits hold active responsibility " ++
      "(reserved, in_progress, confirmed, disputed, or pending_settlement)"⟩

def assertCapacityInvariants (state : Capacity) : Except HttpError Unit := do
  require (|state.totalBillCredits - state.activeCredits| ≤ epsilon)
    ⟨500, "capacity invariant check failed"⟩
  require (state.activeCredits ≤ state.totalLockedUsdc + epsilon)
    ⟨500, "capacity invariant check failed"⟩

namespace Db

variable (db : Db)

def totalLockedUsdc : ℚ := db.capacity.total fun _ row => row.totalLockedUsdc

def totalBillCredits : ℚ := db.capacity.total fun _ row => row.totalBillCredits

/-- A missing row reads as an empty one. -/
def credits (identityId : IdentityId) : Capacity := (db.capacity.get identityId).getD {}

def setCapacity (identityId : IdentityId) (row : Capacity) : Db :=
  { db with capacity := db.capacity.set identityId row }

end Db

/-- The audit of the anchor over all identities. That a breach also switches the safety
mode on is left to whoever sets the pauses. -/
def auditCapacityAnchor (db : Db) : Except HttpError Unit :=
  require (db.totalBillCredits ≤ db.totalLockedUsdc + epsilon)
    ⟨503, "safety mode enabled: capacity anchor breach detected"⟩

/-- Write a row, check it, and audit the anchor. -/
def storeCapacity (db : Db) (identityId : IdentityId) (row : Capacity) : Except HttpError Db := do
  assertCapacityInvariants row
  auditCapacityAnchor (db.setCapacity identityId row)
  .ok (db.setCapacity identityId row)

/-! ## Guards of the routes -/

inductive RuntimeOperation where
  | newLock | newAuthorization | newTask | newSettlement | releaseUnusedCapacity

def RuntimeOperation.name : RuntimeOperation → String
  | .newLock => "new_lock"
  | .newAuthorization => "new_authorization"
  | .newTask => "new_task"
  | .newSettlement => "new_settlement"
  | .releaseUnusedCapacity => "release_unused_capacity"

def Pauses.blocks (pauses : Pauses) : RuntimeOperation → Bool
  | .newLock => pauses.newLock
  | .newAuthorization => pauses.newAuthorization
  | .newTask => pauses.newTask
  | .newSettlement => pauses.newSettlement
  -- pauses still allow releasing available credits
  | .releaseUnusedCapacity => false

def assertRuntimeOperationAllowed (request : Request) (operation : RuntimeOperation) :
    Except HttpError Unit :=
  require (request.pauses.blocks operation = false)
    ⟨503, "safety mode active: blocked operation '" ++ operation.name ++ "'"⟩

def requireActor (request : Request) : Except HttpError IdentityId :=
  match request.actor with
  | some actor => .ok actor
  | none => .error ⟨401, "authentication required for this operation"⟩

def requireLedgerIdentity (request : Request) (identityId : IdentityId) :
    Except HttpError Unit :=
  if request.config.ledgerBinding then do
    let actor ← requireActor request
    require (actor = identityId)
      ⟨403, "authenticated actor must match the target identity for this ledger operation"⟩
  else .ok ()

/-! ## Routes -/

section Routes

variable (request : Request) (db : Db) (identityId : IdentityId) (amount : ℚ)

/-- `AmountRequest`: the amount is positive. -/
def amountRequest : Except HttpError Unit :=
  require (0 < amount) ⟨422, "Input should be greater than 0"⟩

def lockUsdc : Except HttpError Db := do
  amountRequest amount
  requireLedgerIdentity request identityId
  assertRuntimeOperationAllowed request .newLock
  require (request.config.escrowMinAmount ≤ amount) ⟨422, "amount below minimum"⟩
  require (amount ≤ request.config.escrowMaxAmount) ⟨422, "amount exceeds maximum"⟩
  auditCapacityAnchor db
  let row := db.credits identityId
  storeCapacity db identityId { row with
    totalLockedUsdc := row.totalLockedUsdc + amount
    totalBillCredits := row.totalBillCredits + amount
    availableCredits := row.availableCredits + amount }

def releaseUnused : Except HttpError Db := do
  amountRequest amount
  requireLedgerIdentity request identityId
  assertRuntimeOperationAllowed request .releaseUnusedCapacity
  auditCapacityAnchor db
  match db.capacity.get identityId with
  | none => .error ⟨404, "Capacity for " ++ identityId ++ " not found"⟩
  | some row =>
      assertCanReleaseLockedFunds row amount
      storeCapacity db identityId { row with
        availableCredits := row.availableCredits - amount
        totalBillCredits := row.totalBillCredits - amount
        totalLockedUsdc := row.totalLockedUsdc - amount
        releasedCredits := row.releasedCredits + amount }

end Routes

/-! ## Disputes and resolutions -/

section Resolutions

variable (db : Db) (buyerIdentityId : IdentityId) (escrowAmount : ℚ)

/-- When a dispute opens, the escrow moves from the reserved to the disputed bucket. -/
def moveReservedToDisputed : Except HttpError Db :=
  match db.capacity.get buyerIdentityId with
  | none => .error ⟨409, "buyer has no capacity ledger; cannot open dispute"⟩
  | some cap => do
      require (escrowAmount ≤ cap.reservedCredits + epsilon)
        ⟨409, "insufficient reserved credits to freeze for dispute"⟩
      storeCapacity db buyerIdentityId { cap with
        reservedCredits := cap.reservedCredits - escrowAmount
        disputedCredits := cap.disputedCredits + escrowAmount }

/-- The bucket that a resolution takes the escrow from: the disputed one if it covers the
escrow, otherwise the reserved one. -/
def Capacity.takeEscrow (cap : Capacity) : Except HttpError Capacity :=
  if escrowAmount ≤ cap.disputedCredits + epsilon then
    .ok { cap with disputedCredits := cap.disputedCredits - escrowAmount }
  else if escrowAmount ≤ cap.reservedCredits + epsilon then
    .ok { cap with reservedCredits := cap.reservedCredits - escrowAmount }
  else .error ⟨409, "capacity: neither disputed_credits nor reserved_credits cover escrow amount"⟩

/-- Release the escrow from the reserved or the disputed bucket, burn what is settled and
credit what is refunded. -/
def applyCapacityResolution (settledAmount refundedAmount : ℚ) : Except HttpError Db :=
  let resolved := { db with
    resolutions := db.resolutions ++
      [⟨buyerIdentityId, escrowAmount, settledAmount, refundedAmount⟩] }
  match db.capacity.get buyerIdentityId with
  | none => .ok resolved
  | some cap => do
      require (escrowAmount ≤ cap.totalBillCredits + epsilon)
        ⟨409, "capacity total_bill_credits lower than settlement escrow amount"⟩
      require (escrowAmount ≤ cap.totalLockedUsdc + epsilon)
        ⟨409, "capacity total_locked_usdc lower than settlement escrow amount"⟩
      let taken ← cap.takeEscrow escrowAmount
      storeCapacity resolved buyerIdentityId { taken with
        burnedCredits := taken.burnedCredits + settledAmount
        releasedCredits := taken.releasedCredits + refundedAmount
        totalBillCredits := taken.totalBillCredits - escrowAmount
        totalLockedUsdc := taken.totalLockedUsdc - escrowAmount }

end Resolutions

end TrustChain.Service
