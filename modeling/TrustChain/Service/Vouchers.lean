import TrustChain.Service.Capacity

/-!
# Vouchers and profile quotas

A voucher is created by its buyer and accepted by its seller, which reserves the buyer's
credits. A profile's quota is spent when a voucher is created under the profile and released
when its settlement ends.
-/

namespace TrustChain.Service

open Library

/-! ## Profile quotas -/

/-- `_in_use`. -/
def ProfileCapacity.inUse (row : ProfileCapacity) : ℚ :=
  row.inProgressCredits + row.pendingSettlementCredits + row.disputedCredits

namespace Db

variable (db : Db)

def setProfile (profileId : ProfileId) (row : ProfileCapacity) : Db :=
  { db with profiles := db.profiles.set profileId row }

def setVoucher (voucherId : VoucherId) (row : Voucher) : Db :=
  { db with vouchers := db.vouchers.set voucherId row }

end Db

section Profiles

variable (request : Request) (db : Db)

/-- Allocate to one profile. -/
def allocateOne (identityId : IdentityId) (db : Db) (allocation : ProfileId × ℚ) :
    Except HttpError Db := do
  let (profileId, amount) := allocation
  require (db.roleProfiles profileId = some identityId)
    ⟨404, "profile " ++ profileId ++ " not found for this identity"⟩
  match db.profiles.get profileId with
  | none => .ok (db.setProfile profileId {
      ownerIdentityId := identityId, allocatedCredits := amount, availableCredits := amount })
  | some row =>
      require (row.inUse ≤ amount + epsilon)
        ⟨409, "cannot reduce " ++ profileId ++ " below in-use credits"⟩
      .ok (db.setProfile profileId { row with
        allocatedCredits := amount, availableCredits := amount - row.inUse })

def assertNonnegative (allocations : List (ProfileId × ℚ)) : Except HttpError Unit :=
  match allocations.find? fun allocation => allocation.2 < 0 with
  | none => .ok ()
  | some allocation => .error ⟨400, "negative allocation for " ++ allocation.1⟩

/-- Set the allocations of an identity, whose total must not exceed what it has locked. -/
def allocate (identityId : IdentityId) (allocations : List (ProfileId × ℚ)) :
    Except HttpError Db := do
  require (request.actor = some identityId)
    ⟨403, "only the identity owner can set allocations"⟩
  assertNonnegative allocations
  match db.capacity.get identityId with
  | none => .error ⟨409, "no master capacity — lock USDC first"⟩
  | some cap =>
      require ((allocations.map Prod.snd).sum ≤ cap.totalLockedUsdc + epsilon)
        ⟨409, "total allocation exceeds master locked"⟩
      allocations.foldlM (allocateOne identityId) db

/-- Reserve an amount of a profile's available credits. -/
def spendProfileCredits (profileId : ProfileId) (amount : ℚ) : Except HttpError Db :=
  match db.profiles.get profileId with
  | none => .error ⟨409, "profile " ++ profileId ++ " has no allocation"⟩
  | some row => do
      require (amount ≤ row.availableCredits + epsilon) ⟨409, "insufficient profile credits"⟩
      .ok (db.setProfile profileId { row with
        availableCredits := row.availableCredits - amount
        inProgressCredits := row.inProgressCredits + amount })

/-- The per-profile quota of a new voucher. -/
def spendIfBound (profileId : Option ProfileId) (amount : ℚ) : Except HttpError Db :=
  match profileId with
  | some profileId => spendProfileCredits db profileId amount
  | none => .ok db

/-- Release a profile's credits in progress: what is settled is gone, what is refunded is
available again. Never more is released than was reserved. -/
def releaseProfileCredits (profileId : ProfileId) (settledAmount refundedAmount : ℚ) : Db :=
  match db.profiles.get profileId with
  | none => db
  | some row =>
      let settled := max 0 settledAmount
      let refunded := max 0 refundedAmount
      let total := settled + refunded
      let release (total settled refunded : ℚ) : Db :=
        db.setProfile profileId { row with
          inProgressCredits := row.inProgressCredits - total
          releasedCredits := row.releasedCredits + settled
          availableCredits :=
            if 0 < refunded then row.availableCredits + refunded else row.availableCredits }
      if row.inProgressCredits + epsilon < total then
        -- clamped to what was reserved, in the same proportion
        let clamped := row.inProgressCredits
        if clamped ≤ 0 then db
        else
          let scale := if 0 < total then clamped / total else 0
          release clamped (roundTo 8 (settled * scale)) (roundTo 8 (refunded * scale))
      else release total settled refunded

end Profiles

/-! ## Vouchers -/

structure CreateVoucherRequest where
  buyerIdentityId : IdentityId
  sellerIdentityId : IdentityId
  amount : ℚ
  billCreditAmount : ℚ
  expiryTime : ℚ
  nonce : String
  profileId : Option ProfileId := none
  progressRuleSpec : Option ProgressRuleSpec := none
deriving DecidableEq

/-- The row of a new voucher. -/
def CreateVoucherRequest.voucher (body : CreateVoucherRequest) : Voucher where
  buyerIdentityId := body.buyerIdentityId
  sellerIdentityId := body.sellerIdentityId
  amount := body.amount
  billCreditAmount := body.billCreditAmount
  expiryTime := body.expiryTime
  nonce := body.nonce
  profileId := body.profileId
  progressRuleSpec := body.progressRuleSpec

section Vouchers

variable (request : Request) (db : Db)

/-- Create a voucher under a fresh identifier. A buyer uses a nonce once. -/
def createVoucher (voucherId : VoucherId) (body : CreateVoucherRequest) :
    Except HttpError Db := do
  assertRuntimeOperationAllowed request .newAuthorization
  auditCapacityAnchor db
  requireLedgerIdentity request body.buyerIdentityId
  require (0 < body.amount ∧ 0 < body.billCreditAmount)
    ⟨400, "amount and bill_credit_amount must be > 0"⟩
  require (request.now < body.expiryTime) ⟨400, "expiry_time must be in the future"⟩
  require (body.billCreditAmount ≤ (db.credits body.buyerIdentityId).availableCredits ∧
      db.capacity.get body.buyerIdentityId ≠ none)
    ⟨409, "insufficient buyer available credits"⟩
  let spent ← spendIfBound db body.profileId body.billCreditAmount
  require (request.gates.subIdentities = true) ⟨409, "sub-identity parent mismatch"⟩
  require (request.gates.buyerCommitment = true) ⟨400, "buyer commitment rejected"⟩
  require (db.vouchers.get voucherId = none ∧ ∀ row ∈ db.vouchers.rows,
      ¬(row.2.buyerIdentityId = body.buyerIdentityId ∧ row.2.nonce = body.nonce))
    ⟨409, "duplicate voucher nonce for this buyer"⟩
  .ok (spent.setVoucher voucherId body.voucher)

/-- The row of a voucher. -/
def getVoucher (voucherId : VoucherId) : Except HttpError Voucher :=
  match db.vouchers.get voucherId with
  | some row => .ok row
  | none => .error ⟨404, "Voucher " ++ voucherId ++ " not found"⟩

/-- The seller accepts: the buyer's credits are reserved. That an expired voucher is set to
`expired` before the refusal is rolled back with the request. -/
def acceptVoucherRow (voucherId : VoucherId) (row : Voucher) (sellerIdentityId : IdentityId) :
    Except HttpError Db := do
  require (row.status = .created) ⟨409, "voucher already processed: " ++ row.status.value⟩
  require (request.now < row.expiryTime) ⟨409, "voucher expired"⟩
  require (row.sellerIdentityId = sellerIdentityId) ⟨403, "seller mismatch"⟩
  match db.capacity.get row.buyerIdentityId with
  | none => .error ⟨409, "insufficient buyer available credits"⟩
  | some cap =>
      require (row.billCreditAmount ≤ cap.availableCredits)
        ⟨409, "insufficient buyer available credits"⟩
      let reserved ← storeCapacity db row.buyerIdentityId { cap with
        availableCredits := cap.availableCredits - row.billCreditAmount
        reservedCredits := cap.reservedCredits + row.billCreditAmount }
      .ok (reserved.setVoucher voucherId { row with status := .accepted })

def rejectVoucherRow (voucherId : VoucherId) (row : Voucher) (sellerIdentityId : IdentityId) :
    Except HttpError Db := do
  require (row.status = .created) ⟨409, "voucher already processed: " ++ row.status.value⟩
  require (row.sellerIdentityId = sellerIdentityId) ⟨403, "seller mismatch"⟩
  .ok (db.setVoucher voucherId { row with status := .rejected })

variable (voucherId : VoucherId) (sellerIdentityId : IdentityId)

def acceptVoucher : Except HttpError Db := do
  assertRuntimeOperationAllowed request .newAuthorization
  auditCapacityAnchor db
  requireLedgerIdentity request sellerIdentityId
  let row ← getVoucher db voucherId
  acceptVoucherRow request db voucherId row sellerIdentityId

def acceptPaymentCode : Except HttpError Db := do
  requireLedgerIdentity request sellerIdentityId
  let row ← getVoucher db voucherId
  acceptVoucherRow request db voucherId row sellerIdentityId

def rejectPaymentCode : Except HttpError Db := do
  requireLedgerIdentity request sellerIdentityId
  let row ← getVoucher db voucherId
  rejectVoucherRow db voucherId row sellerIdentityId

end Vouchers

end TrustChain.Service
