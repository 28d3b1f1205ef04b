import TrustChain.Service.Conservation

/-!
# The automatic split

The nine rules of the automatic split come down to three: failed step counts or no confirmed
progress pay the seller nothing, from 90 percent on the whole escrow is paid, and in between
the confirmed share. The conservative rule pays the confirmed share below 50 percent, where
it would be paid anyway, and does not bind above.
-/

namespace TrustChain.Service

open Library

/-- The evidence in `worse` has failed wherever that in `ctx` has: a receipt of success may have
disappeared, the delivery may have become overdue, and checks may have turned to failed. -/
structure AutoArbitrationContext.Worse (ctx worse : AutoArbitrationContext) : Prop where
  overdue : ctx.deliveryOverdue = true → worse.deliveryOverdue = true
  success : worse.hasSuccessReceipt = true → ctx.hasSuccessReceipt = true
  receiptIds : ctx.bundleReceiptIdsOk = some false → worse.bundleReceiptIdsOk = some false
  stepCounts : ctx.bundleStepCountsOk = some false → worse.bundleStepCountsOk = some false
  hashes : ctx.bundleReceiptHashesMatch = some false → worse.bundleReceiptHashesMatch = some false

/-- The identifiers or the hashes of the evidence bundle do not match the receipts. -/
def AutoArbitrationContext.IntegrityFailed (ctx : AutoArbitrationContext) : Prop :=
  ctx.bundleReceiptIdsOk = some false ∨ ctx.bundleReceiptHashesMatch = some false

/-- The amount that the seller is paid. -/
def settledAmount (ctx : AutoArbitrationContext) (confirmedPercent escrowAmount : ℚ) : ℚ :=
  (adjustAutoSplitForRules ctx confirmedPercent escrowAmount).1

/-- `round(escrow * confirmed_percent / 100, 2)`. -/
def confirmedShare (confirmedPercent escrowAmount : ℚ) : ℚ :=
  cents (escrowAmount * confirmedPercent / 100)

section Split

variable {ctx worse : AutoArbitrationContext} {percent less more escrow : ℚ}

/-- What the rules come down to. -/
theorem settledAmount_eq :
    settledAmount ctx percent escrow =
      if ctx.bundleStepCountsOk = some false ∨ percent ≤ 0 then 0
      else if 90 ≤ percent then cents escrow else confirmedShare percent escrow := by
  rw [settledAmount, adjustAutoSplitForRules]
  by_cases failed : ctx.bundleStepCountsOk = some false
  · rw [if_pos failed, if_pos (.inl failed)]
  rw [if_neg failed]
  by_cases none : percent ≤ 0
  · have nothing : ctx.bundleStepCountsOk = some false ∨ percent ≤ 0 := .inr none
    rw [if_pos nothing]
    by_cases bad : ctx.bundleReceiptIdsOk = some false ∨ ctx.bundleReceiptHashesMatch = some false
    · rw [if_pos ⟨bad, none⟩]
    · simp [bad, none]
  rw [if_neg (not_or.mpr ⟨failed, none⟩)]
  have positive : 0 ≤ percent := (not_le.mp none).le
  simp only [none, and_false, if_false]
  split
  · next conservative =>
      have below : ¬90 ≤ percent := by linarith [conservative.2]
      rw [if_neg below, percentSplit, max_eq_left positive, confirmedShare]
  · split
    · rfl
    · rfl

theorem confirmedShare_mono (nonneg : 0 ≤ escrow) (raised : less ≤ more) :
    confirmedShare less escrow ≤ confirmedShare more escrow :=
  roundTo_mono (by gcongr)

theorem confirmedShare_le (nonneg : 0 ≤ escrow) (within : percent ≤ 100) :
    confirmedShare percent escrow ≤ cents escrow :=
  roundTo_mono (by nlinarith)

theorem settledAmount_nonneg (nonneg : 0 ≤ escrow) : 0 ≤ settledAmount ctx percent escrow := by
  rw [settledAmount_eq]
  split
  · exact le_rfl
  · next progress =>
      have positive : 0 ≤ percent := (not_le.mp (not_or.mp progress).2).le
      split
      · exact roundTo_nonneg nonneg
      · exact roundTo_nonneg (by positivity)

/-- More confirmed progress never pays the seller less. -/
theorem settledAmount_mono (nonneg : 0 ≤ escrow) (raised : less ≤ more) (within : more ≤ 100) :
    settledAmount ctx less escrow ≤ settledAmount ctx more escrow := by
  have other : 0 ≤ settledAmount ctx more escrow := settledAmount_nonneg nonneg
  rw [settledAmount_eq]
  split
  · exact other
  · next progress =>
      rw [not_or, not_le] at progress
      have progress' : ¬(ctx.bundleStepCountsOk = some false ∨ more ≤ 0) :=
        not_or.mpr ⟨progress.1, not_le.mpr (progress.2.trans_le raised)⟩
      rw [settledAmount_eq, if_neg progress']
      split
      · next complete => rw [if_pos (complete.trans raised)]
      · split
        · exact confirmedShare_le nonneg (raised.trans within)
        · exact confirmedShare_mono nonneg raised

/-- Worse evidence never pays the seller more. -/
theorem settledAmount_worse (nonneg : 0 ≤ escrow) (worsened : ctx.Worse worse) :
    settledAmount worse percent escrow ≤ settledAmount ctx percent escrow := by
  have other : 0 ≤ settledAmount ctx percent escrow := settledAmount_nonneg nonneg
  rw [settledAmount_eq]
  split
  · exact other
  · next progress =>
      have progress' : ¬(ctx.bundleStepCountsOk = some false ∨ percent ≤ 0) := fun failed =>
        progress (failed.imp_left worsened.stepCounts)
      rw [settledAmount_eq, if_neg progress']

/-- Below 90 percent, the seller is paid the confirmed share at most. -/
theorem settledAmount_le_share (nonneg : 0 ≤ escrow) (positive : 0 ≤ percent)
    (bound : ctx.bundleStepCountsOk = some false ∨ percent < 90 ∨ percent = 100) :
    settledAmount ctx percent escrow ≤ confirmedShare percent escrow := by
  rw [settledAmount_eq]
  split
  · exact roundTo_nonneg (by positivity)
  · next progress =>
      split
      · next complete =>
          rcases bound with failed | below | whole
          · exact absurd (.inl failed) progress
          · exact absurd complete (not_le.mpr below)
          · rw [confirmedShare, whole, mul_div_cancel_right₀ _ (by norm_num)]
      · exact le_rfl

end Split

/-- The split is monotone in the confirmed progress and in the evidence. Where the integrity of
the bundle failed, it pays the confirmed share at most below 90 percent, at 100, and where the
step counts failed too; otherwise it pays the whole escrow. -/
theorem auto_split_monotone {escrow : ℚ} (nonneg : 0 ≤ escrow) :
    (∀ ctx less more, 0 ≤ less → less ≤ more → more ≤ 100 →
      settledAmount ctx less escrow ≤ settledAmount ctx more escrow) ∧
    (∀ ctx worse : AutoArbitrationContext, ctx.Worse worse → ∀ percent, 0 ≤ percent →
      percent ≤ 100 → settledAmount worse percent escrow ≤ settledAmount ctx percent escrow) ∧
    ∀ ctx percent, ctx.IntegrityFailed → 0 ≤ percent → percent ≤ 100 →
      (ctx.bundleStepCountsOk = some false ∨ percent < 90 ∨ percent = 100 →
        settledAmount ctx percent escrow ≤ confirmedShare percent escrow) ∧
      (¬ctx.bundleStepCountsOk = some false → 90 ≤ percent →
        settledAmount ctx percent escrow = cents escrow) := by
  refine ⟨?_, ?_, ?_⟩
  · intro ctx less more _ raised within
    exact settledAmount_mono nonneg raised within
  · intro ctx worse worsened percent _ _
    exact settledAmount_worse nonneg worsened
  · intro ctx percent _ positive _
    refine ⟨settledAmount_le_share nonneg positive, fun counted complete => ?_⟩
    have progress : ¬(ctx.bundleStepCountsOk = some false ∨ percent ≤ 0) :=
      not_or.mpr ⟨counted, by linarith⟩
    rw [settledAmount_eq, if_neg progress, if_pos complete]

/-- The evidence of an undelivered bundle whose identifiers do not match. -/
def Demo.mismatched : AutoArbitrationContext := ⟨false, true, some false, some true, some true⟩

/-- At 95 percent a bundle with the wrong receipts is paid in full. -/
theorem auto_split_overpays :
    Demo.mismatched.IntegrityFailed ∧ settledAmount Demo.mismatched 95 100 = 100 ∧
      confirmedShare 95 100 = 95 ∧
      ¬settledAmount Demo.mismatched 95 100 ≤ confirmedShare 95 100 := by
  refine ⟨.inl rfl, by decide +kernel, by decide +kernel, by decide +kernel⟩

theorem auto_split_monotone_hundred :
    settledAmount Demo.mismatched 70 100 ≤ confirmedShare 70 100 := by
  have nonneg : (0 : ℚ) ≤ 100 := by norm_num
  exact ((auto_split_monotone nonneg).2.2 Demo.mismatched 70 (.inl rfl) (by norm_num)
    (by norm_num)).1 (.inr (.inl (by norm_num)))

end TrustChain.Service
