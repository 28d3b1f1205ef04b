import TrustChain.Service.Books

/-!
# Reservations

What a buyer has reserved and disputed, against what its accepted vouchers stand for. The two
move together, except in a resolution, which releases the escrow and uses up a voucher.
-/

namespace TrustChain.Service

open Library

/-- What a voucher stands for: nothing until it is accepted and after it has been used. -/
def Voucher.claim (buyerIdentityId : IdentityId) (row : Voucher) : ℚ :=
  if row.status = .accepted ∧ row.buyerIdentityId = buyerIdentityId then row.billCreditAmount else 0

/-- What is reserved or disputed. -/
def Capacity.held (cap : Capacity) : ℚ := cap.reservedCredits + cap.disputedCredits

namespace Core

variable (core : Core) (buyerIdentityId : IdentityId)

/-- The sum over the accepted vouchers of a buyer. -/
def acceptedCredits : ℚ := core.vouchers.total fun _ row => row.claim buyerIdentityId

/-- What is held beyond what accepted vouchers stand for. -/
def slack : ℚ := (core.credits buyerIdentityId).held - core.acceptedCredits buyerIdentityId

end Core

/-! ## Claims -/

section Claims

variable {buyer : IdentityId} {voucher : Voucher}

theorem claim_of_not_accepted (idle : voucher.status ≠ .accepted) : voucher.claim buyer = 0 :=
  if_neg fun accepted => idle accepted.1

theorem claim_of_accepted (accepted : voucher.status = .accepted) :
    voucher.claim buyer =
      if voucher.buyerIdentityId = buyer then voucher.billCreditAmount else 0 := by
  rw [Voucher.claim]
  exact if_congr (and_iff_right accepted) rfl rfl

theorem useVoucher_accepted {vouchers : Table VoucherId Voucher} {voucherId : VoucherId}
    (there : vouchers.get voucherId = some voucher) (accepted : voucher.status = .accepted) :
    useVoucher vouchers (some voucherId) =
      vouchers.set voucherId { voucher with status := .used } := by
  simp [useVoucher, there, accepted]

theorem held_resolve {cap taken : Capacity} {amount settled refunded : ℚ}
    (took : cap.takeEscrow amount = .ok taken) :
    (taken.resolve amount settled refunded).held = cap.held + -amount := by
  rcases takeEscrow_ok took with ⟨-, rfl⟩ | ⟨-, rfl⟩
  all_goals
    simp only [Capacity.held, Capacity.resolve]
    ring

end Claims

/-! ## Sums over the vouchers -/

section Totals

variable {voucher : Voucher} {vouchers : Table VoucherId Voucher} {voucherId : VoucherId}
  (buyer : IdentityId)

/-- Storing a voucher over another one exchanges their claims. -/
theorem total_claim_set (vouchers : Table VoucherId Voucher) (voucherId : VoucherId) (new : Voucher) :
    (vouchers.set voucherId new).total (fun _ row => row.claim buyer) =
      vouchers.total (fun _ row => row.claim buyer) + new.claim buyer -
        (vouchers.get voucherId).elim 0 (Voucher.claim buyer) :=
  eq_sub_of_add_eq (vouchers.total_set voucherId new fun _ row => row.claim buyer)

theorem total_claim_idle {new : Voucher} (idle : new.status ≠ .accepted)
    (was : ∀ old, vouchers.get voucherId = some old → old.status ≠ .accepted) :
    (vouchers.set voucherId new).total (fun _ row => row.claim buyer) =
      vouchers.total fun _ row => row.claim buyer := by
  apply Table.total_set_same
  rw [claim_of_not_accepted idle]
  cases there : vouchers.get voucherId with
  | none => rfl
  | some old => exact (claim_of_not_accepted (was old there)).symm

theorem total_claim_accept (there : vouchers.get voucherId = some voucher)
    (created : voucher.status = .created) :
    (vouchers.set voucherId { voucher with status := .accepted }).total
        (fun _ row => row.claim buyer) =
      vouchers.total (fun _ row => row.claim buyer) +
        if voucher.buyerIdentityId = buyer then voucher.billCreditAmount else 0 := by
  have idle : voucher.status ≠ .accepted := by simp [created]
  rw [total_claim_set, there, Option.elim_some, claim_of_not_accepted idle, sub_zero]
  exact congrArg (_ + ·) (claim_of_accepted rfl)

theorem total_claim_use (there : vouchers.get voucherId = some voucher)
    (accepted : voucher.status = .accepted) :
    (useVoucher vouchers (some voucherId)).total (fun _ row => row.claim buyer) =
      vouchers.total (fun _ row => row.claim buyer) -
        if voucher.buyerIdentityId = buyer then voucher.billCreditAmount else 0 := by
  have idle : ({ voucher with status := .used } : Voucher).claim buyer = 0 :=
    claim_of_not_accepted (by simp)
  rw [useVoucher_accepted there accepted, total_claim_set, there, Option.elim_some, idle, add_zero,
    claim_of_accepted accepted]

end Totals

/-! ## Every request -/

section Effects

variable {db : Db} {call : Call} {core : Core}

/-- Only the row of `owner` changes, and what is in a bucket with it. -/
theorem bucket_set (bucket : Capacity → ℚ) (buyer : IdentityId) {owner : IdentityId}
    {cap after : Capacity} {amount : ℚ} (there : db.capacity.get owner = some cap)
    (changed : bucket after = bucket cap + amount) :
    bucket (((db.capacity.set owner after).get buyer).getD {}) =
      bucket (db.credits buyer) + if owner = buyer then amount else 0 := by
  rw [credits_set]
  by_cases same : buyer = owner
  · rw [if_pos same, if_pos same.symm, changed, same, credits_of_get there]
  · rw [if_neg same, if_neg (Ne.symm same), add_zero]
    rfl

theorem bucket_set_same (bucket : Capacity → ℚ) (buyer : IdentityId) {owner : IdentityId}
    {cap after : Capacity} (there : db.capacity.get owner = some cap)
    (same : bucket after = bucket cap) :
    bucket (((db.capacity.set owner after).get buyer).getD {}) = bucket (db.credits buyer) := by
  rw [bucket_set bucket buyer there (same.trans (add_zero _).symm), ite_self, add_zero]

/-- A bucket that a lock does not fill. -/
theorem bucket_lock (bucket : Capacity → ℚ) (buyer owner : IdentityId) {amount : ℚ}
    (same : bucket ((db.credits owner).lock amount) = bucket (db.credits owner)) :
    bucket (((db.capacity.set owner ((db.credits owner).lock amount)).get buyer).getD {}) =
      bucket (db.credits buyer) := by
  rw [credits_set]
  split
  case isTrue here => exact here ▸ same
  case isFalse => rfl

/-- A resolution, whose settlement has an accepted voucher, adds what the voucher exceeds the
escrow by; nothing else changes the slack. -/
theorem Effect.slack (effect : Effect db call core) (sound : db.core.Sound)
    (backed : ∀ taskId ∈ call.resolves db, ∀ row ∈ db.settlements.get taskId,
      ¬row.status.Terminal → ∃ voucherId ∈ row.voucherId, ∃ voucher ∈ db.vouchers.get voucherId,
        voucher.status = .accepted) (buyer : IdentityId) :
    core.slack buyer = db.core.slack buyer ∨
      ∃ taskId row voucherId voucher, call.resolves db = some taskId ∧
        db.settlements.get taskId = some row ∧ row.voucherId = some voucherId ∧
        db.vouchers.get voucherId = some voucher ∧ voucher.status = .accepted ∧
        core.slack buyer = db.core.slack buyer +
          if row.clientAgentId = buyer then voucher.billCreditAmount - row.escrowAmount else 0 := by
  cases effect with
  | locked owner amount =>
      refine .inl (congrArg (· - db.core.acceptedCredits buyer) ?_)
      exact bucket_lock Capacity.held buyer owner rfl
  | released owner amount cap there =>
      refine .inl (congrArg (· - db.core.acceptedCredits buyer) ?_)
      exact bucket_set_same Capacity.held buyer there rfl
  | voucherCreated voucherId body fresh =>
      refine .inl (congrArg (Capacity.held _ - ·)
        (total_claim_idle buyer (by simp [CreateVoucherRequest.voucher]) ?_))
      intro old there
      cases fresh.symm.trans there
  | voucherRejected _ voucherId row _ there created =>
      refine .inl (congrArg (Capacity.held _ - ·)
        (total_claim_idle buyer (by simp) ?_))
      intro old found
      simp [Option.some.inj (found.symm.trans there), created]
  | voucherAccepted _ voucherId row cap _ there created funded =>
      left
      have reserved : (cap.reserve row.billCreditAmount).held = cap.held + row.billCreditAmount := by
        simp only [Capacity.held, Capacity.reserve]
        ring
      exact (congrArg₂ (· - ·) (bucket_set Capacity.held buyer funded reserved)
        (total_claim_accept buyer there created)).trans (add_sub_add_right_eq_sub _ _ _)
  | disputed _ _ row _ cap _ _ _ _ _ funded =>
      refine .inl (congrArg (· - db.core.acceptedCredits buyer) ?_)
      have moved : (cap.freeze row.escrowAmount).held = cap.held := by
        simp only [Capacity.held, Capacity.freeze]
        ring
      exact bucket_set_same Capacity.held buyer funded moved
  | resolved _ taskId row next settled refunded _ there resolving _ ended before _ taken =>
      right
      obtain ⟨voucherId, names, voucher, found, accepted⟩ :=
        backed taskId resolving row there (not_terminal_of_resolved ended before)
      refine ⟨taskId, row, voucherId, voucher, resolving, there, names, found, accepted, ?_⟩
      obtain ⟨linked, again, client, -⟩ := sound.linked taskId row there voucherId names
      obtain rfl := Option.some.inj (found.symm.trans again)
      obtain ⟨nobody, -⟩ | ⟨cap, after, funded, took, rfl⟩ := taken
      · obtain ⟨cap, funded⟩ := sound.funded voucherId voucher found accepted
        cases (client ▸ nobody).symm.trans funded
      · have total := total_claim_use buyer found accepted
        rw [← names] at total
        have held : (after.resolve row.escrowAmount settled refunded).held =
            cap.held + -row.escrowAmount := held_resolve took
        refine (congrArg₂ (· - ·) (bucket_set Capacity.held buyer funded held) total).trans ?_
        simp only [client, Core.slack, Core.credits, Core.acceptedCredits, Db.credits, Db.core]
        split_ifs <;> ring
  | _ => exact .inl rfl

end Effects

end TrustChain.Service
