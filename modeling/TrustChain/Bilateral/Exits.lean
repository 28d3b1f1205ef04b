import TrustChain.Bilateral.Disputes

/-!
# No funds are stuck

Every bill and every binding has a way out that succeeds: the counters of a valid storage
cover what an exit takes off them, the checks after a payout hold, and the contract's
balance covers what it pays.
-/

namespace TrustChain.Bilateral

open Library Function Storage

/-! ## What the totals cover -/

namespace Ledger

variable {Account Token : Type} [DecidableEq Account] [DecidableEq Token]
  {ledger : Ledger Account Token}

/-- The totals cover both bills of a pact. -/
structure Covers (ledger : Ledger Account Token) (pact : Pact) : Prop where
  buyer_bound : (ledger.bill pact.buyer).amount ≤ ledger.bound (ledger.bill pact.buyer).owner
  agent_bound : (ledger.bill pact.agent).amount ≤ ledger.bound (ledger.bill pact.agent).owner
  supply : (ledger.bill pact.buyer).amount + (ledger.bill pact.agent).amount ≤
    ledger.supply (ledger.bill pact.buyer).token
  pending : (ledger.bill pact.buyer).amount + (ledger.bill pact.agent).amount ≤
    ledger.pending (ledger.bill pact.buyer).token

theorem Consistent.covers {pactId : Nat} (consistent : ledger.Consistent)
    (isPact : ledger.IsPact pactId) (live : (ledger.pact pactId).live = true) :
    ledger.Covers (ledger.pact pactId) := by
  obtain ⟨balanced, paired⟩ := consistent
  have sound := paired.sound pactId isPact
  have different := sound.buyer_ne_agent
  obtain ⟨buyerIsBill, agentIsBill, sameToken, -, buyerState, agentState⟩ := sound
  rw [live, if_pos rfl] at buyerState agentState
  constructor
  case buyer_bound =>
    rw [balanced.bound_eq]
    have part := le_tally buyerIsBill.1 buyerIsBill.2 ledger.bill
      (Bill.held (ledger.bill (ledger.pact pactId).buyer).owner .bound)
    simpa [Bill.held, buyerState] using part
  case agent_bound =>
    rw [balanced.bound_eq]
    have part := le_tally agentIsBill.1 agentIsBill.2 ledger.bill
      (Bill.held (ledger.bill (ledger.pact pactId).agent).owner .bound)
    simpa [Bill.held, agentState] using part
  case supply =>
    rw [balanced.supply_eq]
    have part := add_le_tally buyerIsBill.1 buyerIsBill.2 agentIsBill.1 agentIsBill.2 different
      ledger.bill (Bill.circulating (ledger.bill (ledger.pact pactId).buyer).token)
    simpa [Bill.circulating, buyerState, agentState, sameToken] using part
  case pending =>
    rw [paired.pending_eq]
    have part := le_tally isPact.1 isPact.2 ledger.pact
      (ledger.pactAmount (ledger.bill (ledger.pact pactId).buyer).token)
    simpa [Ledger.pactAmount, live] using part

/-- The totals cover a free bill. -/
theorem Balanced.covers_free {billId : Nat} (balanced : ledger.Balanced)
    (isBill : ledger.IsBill billId) (minted : (ledger.bill billId).state = .minted) :
    (ledger.bill billId).amount ≤ ledger.free (ledger.bill billId).owner ∧
      (ledger.bill billId).amount ≤ ledger.supply (ledger.bill billId).token := by
  rw [balanced.free_eq, balanced.supply_eq]
  have held := le_tally isBill.1 isBill.2 ledger.bill
    (Bill.held (ledger.bill billId).owner .minted)
  have circulating := le_tally isBill.1 isBill.2 ledger.bill
    (Bill.circulating (ledger.bill billId).token)
  simp only [Bill.held, Bill.circulating, minted, and_self, if_true, ne_eq, reduceCtorEq,
    not_false_eq_true] at held circulating
  exact ⟨held, circulating⟩

end Ledger

/-! ## The checks of a payout -/

section Checks

variable {storage : Storage} {bindingId : Nat}

theorem debit_of_ne {totals : Address → Nat} {key query : Address} (different : key ≠ query)
    (amount : Nat) : debit totals key amount query = totals query := by
  rw [debit_apply, if_neg different.symm, Nat.sub_zero]

theorem Valid.supply_eq (valid : Valid storage) (token : Address) :
    storage.totalBillSupply token = storage.totalLocked token :=
  (valid.consistent.balanced.supply_eq token).trans
    (valid.consistent.balanced.locked_eq token).symm

/-- The counters allow every live binding to be paid out. -/
theorem Valid.retirable (valid : Valid storage) (opened : storage.Opened bindingId)
    (live : (storage.bindings bindingId).state.live = true) :
    storage.Retirable (storage.bills (storage.bindings bindingId).buyerBillId)
      (storage.bills (storage.bindings bindingId).agentBillId) := by
  have books := valid.books
  have different := books.owners_ne bindingId opened
  have sameToken := books.same_token bindingId opened
  have covers := valid.consistent.covers ((opened_iff valid.wellFormed).mp opened) live
  have buyer : _ ≤ storage.boundBalance _ := covers.buyer_bound
  have agent : _ ≤ storage.boundBalance _ := covers.agent_bound
  have supply : _ ≤ storage.totalBillSupply _ := covers.supply
  have pending : _ ≤ storage.pendingBatchAmount _ := covers.pending
  constructor
  case bound => exact ⟨buyer, agent.trans (debit_of_ne different _).ge⟩
  case minted =>
    rw [debit_of_ne different, books.totalMintedByAddr_eq, books.totalMintedByAddr_eq]
    exact ⟨buyer.trans (Nat.le_add_left _ _), agent.trans (Nat.le_add_left _ _)⟩
  case lockedBy =>
    rw [debit_of_ne different, books.totalLockedByAddr_eq, books.totalLockedByAddr_eq]
    exact ⟨buyer.trans (Nat.le_add_left _ _), agent.trans (Nat.le_add_left _ _)⟩
  case supply =>
    rw [← sameToken, debit_apply, if_pos rfl]
    exact ⟨(Nat.le_add_right _ _).trans supply, Nat.le_sub_of_add_le' supply⟩
  case locked =>
    rw [← sameToken, debit_apply, if_pos rfl, ← valid.supply_eq]
    exact ⟨(Nat.le_add_right _ _).trans supply, Nat.le_sub_of_add_le' supply⟩
  case pool => exact pending.trans_lt (valid.wellFormed.pending_lt _)
  case pending => exact pending

theorem Valid.perAddress (valid : Valid storage) (account : Address) :
    storage.freeBalance account + storage.boundBalance account < wordSize ∧
      storage.freeBalance account + storage.boundBalance account =
        storage.totalMintedByAddr account := by
  have minted := valid.books.totalMintedByAddr_eq account
  have fits := valid.wellFormed.minted_lt account
  exact ⟨minted ▸ fits, minted.symm⟩

/-- The checks at the end of a payout pass in a valid storage. -/
theorem Valid.checkPayout {world : World} (valid : Valid world.storage)
    (token buyerOwner agentOwner : Address) :
    ∃ next, checkPayout world token buyerOwner agentOwner = .ok next :=
  ⟨_, checkPayout_eq_ok.mpr ⟨valid.supply_eq token, fun owner _ => valid.perAddress owner, rfl⟩⟩

theorem Valid.close (valid : Valid storage) (opened : storage.Opened bindingId)
    (live : (storage.bindings bindingId).state.live = true) (payout : Payout) :
    Valid (storage.close bindingId payout) := by
  have isPact := (opened_iff valid.wellFormed).mp opened
  have sound := valid.consistent.paired.sound bindingId isPact
  refine ⟨?_, valid.wellFormed.close isPact sound payout⟩
  rw [ledger_close]
  exact valid.consistent.move (.close _ bindingId isPact live)

theorem Valid.conclude (valid : Valid storage) (opened : storage.Opened bindingId) :
    Valid (storage.conclude bindingId) := by
  refine ⟨?_, valid.wellFormed.conclude ((opened_iff valid.wellFormed).mp opened)⟩
  rw [ledger_conclude]
  exact valid.consistent

theorem Valid.release {billId : Nat} (valid : Valid storage) (issued : storage.Issued billId)
    (minted : (storage.bills billId).state = .minted) {deployment : Deployment}
    {msg : Message deployment} (owner : (storage.bills billId).owner = msg.sender) :
    Valid (storage.release billId) := by
  have change : Change deployment ({} : Externals) msg storage (.unlock billId)
      (storage.release billId) _ := .released billId issued owner minted
  exact change.valid valid

end Checks

/-! ## Payments -/

section Payments

variable {deployment : Deployment} {ext : Externals} {world : World} {token target : Address}
  {amount rest : Nat}

/-- A transfer that the balance covers goes through and leaves the rest. -/
theorem transfer_enabled (accepted : ext.refuses token deployment.self target = false)
    (enough : amount + rest ≤ (world.tokens token).balanceOf deployment.self) :
    ∃ next, world.transfer deployment ext token target amount = .ok next ∧
      next.storage = world.storage ∧ rest ≤ (next.tokens token).balanceOf deployment.self := by
  have covered := (Nat.le_add_right amount rest).trans enough
  have paid : (world.tokens token).transfer deployment.self target amount = some _ :=
    Erc20.transfer_eq_some.mpr ⟨covered, rfl⟩
  refine ⟨{ world with
    tokens := update world.tokens token
      ((world.tokens token).move deployment.self target amount)
    tokenCalls := world.tokenCalls ++ [.pay token target amount] }, ?_, rfl, ?_⟩
  · unfold World.transfer
    rw [accepted, paid]
    rfl
  · simp only [update_self, Erc20.move_balanceOf, if_true]
    omega

theorem transferPositive_enabled (accepted : ext.refuses token deployment.self target = false)
    (enough : amount + rest ≤ (world.tokens token).balanceOf deployment.self) :
    ∃ next, world.transferPositive deployment ext token target amount = .ok next ∧
      next.storage = world.storage ∧ rest ≤ (next.tokens token).balanceOf deployment.self := by
  unfold World.transferPositive
  split
  · exact transfer_enabled accepted enough
  · exact ⟨world, rfl, rfl, (Nat.le_add_left _ _).trans enough⟩

end Payments

/-! ## Payouts -/

section Payouts

variable {deployment : Deployment} {ext : Externals} {world : World} {bindingId : Nat}

/-- A world in which a live binding can be paid out: no guard, no fee bridge, and tokens
that decline nothing. -/
structure Payable (deployment : Deployment) (ext : Externals) (world : World) (bindingId : Nat) :
    Prop where
  valid : Valid world.storage
  opened : world.storage.Opened bindingId
  live : (world.storage.bindings bindingId).state.live = true
  unguarded : world.storage.config.emergencyGuard = 0
  unbridged : world.storage.config.feeBridge = 0
  accepted : ∀ token target, ext.refuses token deployment.self target = false
  funded : ∀ token, world.storage.totalLocked token ≤ (world.tokens token).balanceOf deployment.self

variable (payable : Payable deployment ext world bindingId)

include payable

/-- Only the storage and the tokens matter. -/
theorem Payable.frame {other : World} (storage : other.storage = world.storage)
    (tokens : other.tokens = world.tokens) : Payable deployment ext other bindingId := by
  obtain ⟨valid, opened, live, unguarded, unbridged, accepted, funded⟩ := payable
  rw [← storage] at valid opened live unguarded unbridged funded
  rw [← tokens] at funded
  exact ⟨valid, opened, live, unguarded, unbridged, accepted, funded⟩

theorem Payable.emit (event : Event) : Payable deployment ext (world.emit event) bindingId :=
  payable.frame rfl rfl

theorem Payable.conclude :
    Payable deployment ext { world with storage := world.storage.conclude bindingId } bindingId := by
  have valid := payable.valid.conclude payable.opened
  obtain ⟨arbitrations, same⟩ := conclude_eq world.storage bindingId
  rw [same] at valid ⊢
  exact ⟨valid, payable.opened, payable.live, payable.unguarded, payable.unbridged,
    payable.accepted, payable.funded⟩

theorem Payable.pool_funded :
    world.storage.pool bindingId ≤
      (world.tokens (world.storage.tokenOf bindingId)).balanceOf deployment.self := by
  have retirable := payable.valid.retirable payable.opened payable.live
  have sameToken := payable.valid.books.same_token bindingId payable.opened
  obtain ⟨buyer, agent⟩ := retirable.locked
  rw [← sameToken, debit_apply, if_pos rfl] at agent
  refine le_trans ?_ (payable.funded _)
  unfold Storage.pool Storage.tokenOf
  omega

theorem Payable.closed (payout : Payout) : Valid (world.storage.close bindingId payout) :=
  payable.valid.close payable.opened payable.live payout

/-- The bills of a payable binding can be retired. -/
theorem Payable.retireBills (payout : Payout) (reason : String) :
    ∃ retired, retireBills
        { world with
          storage := world.storage.setBinding bindingId
            (payout.mark (world.storage.bindings bindingId)) }
        (world.storage.bindings bindingId) reason = .ok retired ∧
      Valid retired.storage ∧ retired.storage.config = world.storage.config ∧
      world.storage.pool bindingId ≤
        (retired.tokens (world.storage.tokenOf bindingId)).balanceOf deployment.self := by
  have retirable := payable.valid.retirable payable.opened payable.live
  refine ⟨_, retireBills_eq_ok.mpr ⟨retirable_setBinding.mpr retirable, rfl⟩, ?_, rfl, ?_⟩
  · exact payable.closed payout
  · exact payable.pool_funded

theorem Payable.executeRefund :
    ∃ next, executeRefund deployment ext world bindingId = .ok next := by
  obtain ⟨retired, retiring, valid, -, enough⟩ := payable.retireBills .refund "refunded"
  obtain ⟨first, toBuyer, first_storage, left⟩ :=
    transfer_enabled (payable.accepted _ (world.storage.buyerOwner bindingId)) enough
  obtain ⟨second, toAgent, second_storage, -⟩ :=
    transfer_enabled (payable.accepted _ (world.storage.agentOwner bindingId))
      (le_of_eq_of_le (Nat.add_zero _) left)
  have settled : Valid second.storage := by
    rw [second_storage, first_storage]
    exact valid
  obtain ⟨next, checked⟩ := settled.checkPayout (world.storage.tokenOf bindingId)
    (world.storage.buyerOwner bindingId) (world.storage.agentOwner bindingId)
  refine ⟨next, ?_⟩
  simp only [Bilateral.executeRefund, bind_eq_ok]
  exact ⟨retired, retiring, first, toBuyer, second, toAgent, checked⟩

theorem Payable.executeSettle (proofHash : Bytes32) :
    ∃ next, executeSettle deployment ext world bindingId proofHash = .ok next := by
  obtain ⟨retired, retiring, valid, config_eq, enough⟩ :=
    payable.retireBills (.settle proofHash) "settled"
  have fits := (payable.valid.retirable payable.opened payable.live).pool
  have unfrozen : requirePayoutNotFrozen ext world.storage bindingId = .ok () :=
    if_pos (.inl payable.unguarded)
  have free : ∀ token developer amount,
      collectEconomyFee deployment ext retired bindingId token developer amount =
        .ok (0, retired) := by
    intro token developer amount
    exact if_pos (.inl (config_eq ▸ payable.unbridged))
  -- Without a fee the whole pool goes to the agent.
  have covered : (if 0 < world.storage.pool bindingId then world.storage.pool bindingId - 0 else 0) +
      0 ≤ (retired.tokens (world.storage.tokenOf bindingId)).balanceOf deployment.self := by
    split <;> omega
  obtain ⟨paid, toAgent, paid_storage, -⟩ :=
    transferPositive_enabled (payable.accepted _ (world.storage.agentOwner bindingId)) covered
  have settled : Valid paid.storage := by
    rw [paid_storage]
    exact valid
  obtain ⟨last, checked⟩ := settled.checkPayout (world.storage.tokenOf bindingId)
    (world.storage.buyerOwner bindingId) (world.storage.agentOwner bindingId)
  simp only [Bilateral.executeSettle, bind_eq_ok, checkedAdd_eq_ok]
  exact ⟨_, (), unfrozen, retired, retiring, _, ⟨fits, rfl⟩, (0, retired), free _ _ _, paid, toAgent,
    last, checked, rfl⟩

theorem Payable.executeSplit {buyerShareBps : Nat} (share : buyerShareBps ≤ 10000)
    (scaled : world.storage.pool bindingId * 10000 < wordSize) :
    ∃ next, executeSplit deployment ext world bindingId buyerShareBps = .ok next := by
  obtain ⟨retired, retiring, valid, -, enough⟩ :=
    payable.retireBills (.split buyerShareBps) "dispute-resolved"
  have fits := (payable.valid.retirable payable.opened payable.live).pool
  have within : buyerShare (world.storage.pool bindingId) buyerShareBps ≤
      world.storage.pool bindingId := by
    unfold buyerShare
    apply Nat.div_le_of_le_mul
    rw [Nat.mul_comm]
    exact Nat.mul_le_mul_right _ share
  have unfrozen : requireSplitNotFrozen ext world.storage bindingId buyerShareBps = .ok () := by
    unfold requireSplitNotFrozen
    split
    · exact if_pos (.inl payable.unguarded)
    · rfl
  have scaledShare : world.storage.pool bindingId * buyerShareBps < wordSize :=
    (Nat.mul_le_mul_left _ share).trans_lt scaled
  obtain ⟨first, toBuyer, first_storage, left⟩ :=
    transferPositive_enabled (payable.accepted _ (world.storage.buyerOwner bindingId))
      (le_of_eq_of_le (Nat.add_sub_of_le within) enough)
  obtain ⟨second, toAgent, second_storage, -⟩ :=
    transferPositive_enabled (payable.accepted _ (world.storage.agentOwner bindingId))
      (le_of_eq_of_le (Nat.add_zero _) left)
  have settled : Valid second.storage := by
    rw [second_storage, first_storage]
    exact valid
  obtain ⟨last, checked⟩ := settled.checkPayout (world.storage.tokenOf bindingId)
    (world.storage.buyerOwner bindingId) (world.storage.agentOwner bindingId)
  simp only [Bilateral.executeSplit, bind_eq_ok, checkedAdd_eq_ok, checkedMul_eq_ok,
    checkedSub_eq_ok]
  exact ⟨_, (), unfrozen, _, ⟨fits, rfl⟩, _, ⟨scaledShare, rfl⟩, _, ⟨within, rfl⟩, retired, retiring,
    first, toBuyer, second, toAgent, last, checked, rfl⟩

/-- Whichever row of the table applies, the dispute can be resolved. -/
theorem Payable.autoOutcome (scaled : world.storage.pool bindingId * 10000 < wordSize)
    (proofHash : Bytes32) (buyerSubmitted agentSubmitted : Bool) :
    ∃ next, autoOutcome deployment ext world bindingId proofHash buyerSubmitted agentSubmitted =
      .ok next := by
  unfold Bilateral.autoOutcome
  split
  · exact (payable.emit _).executeSettle proofHash
  · split
    · exact (payable.emit _).executeSplit le_rfl scaled
    · split
      · exact (payable.emit _).executeRefund
      · exact (payable.emit _).executeSplit (by decide) scaled

end Payouts

/-! ## Exits -/

section Exits

variable {deployment : Deployment} {ext : Externals} {msg : Message deployment} {world : World}
  {billId bindingId : Nat}

variable (reachable : (system deployment).Reachable world)

include reachable

theorem reachable_payable (opened : world.storage.Opened bindingId)
    (live : (world.storage.bindings bindingId).state.live = true)
    (unguarded : world.storage.config.emergencyGuard = 0)
    (unbridged : world.storage.config.feeBridge = 0)
    (accepted : ∀ token target, ext.refuses token deployment.self target = false) :
    Payable deployment ext world bindingId :=
  ⟨reachable_valid reachable, opened, live, unguarded, unbridged, accepted,
    fun token => (solvent reachable token).1⟩

theorem unlock_enabled
    (accepted : ∀ token target, ext.refuses token deployment.self target = false)
    (later : world.now ≤ msg.timestamp) (issued : world.storage.Issued billId)
    (minted : (world.storage.bills billId).state = .minted)
    (owner : (world.storage.bills billId).owner = msg.sender) :
    ∃ next, (system deployment).Step world (.call msg ext (.unlock billId)) next := by
  have valid := reachable_valid reachable
  have unlocked := reachable_unlocked reachable
  have isBill := (issued_iff valid.wellFormed).mp issued
  obtain ⟨freeCovers, supplyCovers⟩ := valid.consistent.balanced.covers_free isBill minted
  have free : (world.storage.bills billId).amount ≤ world.storage.freeBalance msg.sender :=
    owner ▸ freeCovers
  have supply : (world.storage.bills billId).amount ≤ world.storage.totalBillSupply _ := supplyCovers
  have locked := (valid.supply_eq _).symm ▸ supply
  have minted_le : (world.storage.bills billId).amount ≤
      world.storage.totalMintedByAddr msg.sender := by
    rw [valid.books.totalMintedByAddr_eq]
    exact free.trans (Nat.le_add_right _ _)
  have locked_le : (world.storage.bills billId).amount ≤
      world.storage.totalLockedByAddr msg.sender := by
    rw [valid.books.totalLockedByAddr_eq]
    exact free.trans (Nat.le_add_right _ _)
  obtain ⟨burned, burning, tokens, storage⟩ : ∃ burned,
      World.burnBill
        { world with
          now := msg.timestamp
          status := 2
          storage := { world.storage with
            freeBalance := debit world.storage.freeBalance msg.sender
              (world.storage.bills billId).amount
            totalLockedByAddr := debit world.storage.totalLockedByAddr msg.sender
              (world.storage.bills billId).amount
            totalMintedByAddr := debit world.storage.totalMintedByAddr msg.sender
              (world.storage.bills billId).amount } }
        billId (world.storage.bills billId) "unlocked" = .ok burned ∧
      burned.tokens = world.tokens ∧ burned.storage = world.storage.release billId := by
    refine ⟨_, burnBill_eq_ok.mpr ⟨⟨supply, locked⟩, rfl⟩, rfl, ?_⟩
    simp only [World.emit, Storage.release, owner]
  have enough : (world.storage.bills billId).amount + 0 ≤
      (burned.tokens (world.storage.bills billId).token).balanceOf deployment.self := by
    rw [tokens]
    exact locked.trans (solvent reachable _).1
  obtain ⟨paid, transferred, paid_storage, -⟩ := transfer_enabled (accepted _ msg.sender) enough
  have released : Valid paid.storage := by
    rw [paid_storage, storage]
    exact valid.release issued minted owner
  simp only [step_call, exec, dispatch, unlock, bind_eq_ok, enter_eq_ok, requireBill_eq_ok,
    requireBillState, require_eq_ok, checkedDebit_eq_ok, checkInvariant_eq_ok,
    checkPerAddressInvariant_eq_ok, Except.ok.injEq]
  exact ⟨_, later, _, ⟨by simp [unlocked], rfl⟩, _, ⟨issued, rfl⟩, (), owner, (), minted, (), free, _,
    ⟨free, rfl⟩, _, ⟨locked_le, rfl⟩, _, ⟨minted_le, rfl⟩, burned, burning, paid, transferred, _,
    ⟨released.supply_eq _, rfl⟩, (), released.perAddress _, rfl⟩

theorem refundOnTimeout_enabled (payable : Payable deployment ext world bindingId)
    (later : world.now ≤ msg.timestamp)
    (started : (world.storage.bindings bindingId).state = .active ∨
      (world.storage.bindings bindingId).state = .pending)
    (fits : (world.storage.bindings bindingId).createdAt +
      world.storage.config.settleTimeoutSeconds < wordSize)
    (timeout : (world.storage.bindings bindingId).createdAt +
      world.storage.config.settleTimeoutSeconds ≤ msg.timestamp)
    (buyer : msg.sender = world.storage.buyerOwner bindingId) :
    ∃ next, (system deployment).Step world (.call msg ext (.refundOnTimeout bindingId)) next := by
  have unlocked := reachable_unlocked reachable
  have entered : Payable deployment ext { world with now := msg.timestamp, status := 2 } bindingId :=
    payable.frame rfl rfl
  obtain ⟨paid, refunded⟩ := entered.executeRefund
  simp only [step_call, exec, dispatch, refundOnTimeout, bind_eq_ok, enter_eq_ok,
    requireBinding_eq_ok, require_eq_ok, checkedAdd_eq_ok, Except.ok.injEq]
  exact ⟨_, later, _, ⟨by simp [unlocked], rfl⟩, _, ⟨payable.opened, rfl⟩, (), started, _,
    ⟨fits, rfl⟩, (), timeout, (), buyer, paid, refunded, rfl⟩

theorem finalizeSettle_enabled (payable : Payable deployment ext world bindingId)
    (later : world.now ≤ msg.timestamp)
    (finalizing : (world.storage.bindings bindingId).state = .finalizing)
    (fits : (world.storage.bindings bindingId).settleSubmittedAt +
      world.storage.config.disputeWindow < wordSize)
    (closed : (world.storage.bindings bindingId).settleSubmittedAt +
      world.storage.config.disputeWindow ≤ msg.timestamp) :
    ∃ next, (system deployment).Step world (.call msg ext (.finalizeSettle bindingId)) next := by
  have unlocked := reachable_unlocked reachable
  have entered : Payable deployment ext { world with now := msg.timestamp, status := 2 } bindingId :=
    payable.frame rfl rfl
  obtain ⟨paid, settled⟩ := entered.executeSettle (world.storage.bindings bindingId).proofHash
  simp only [step_call, exec, dispatch, finalizeSettle, bind_eq_ok, enter_eq_ok,
    requireFinalizable_eq_ok, Except.ok.injEq]
  exact ⟨_, later, _, ⟨by simp [unlocked], rfl⟩, _, ⟨payable.opened, finalizing, fits, closed, rfl⟩,
    paid, settled, rfl⟩

theorem autoResolveArbitration_enabled (payable : Payable deployment ext world bindingId)
    (later : world.now ≤ msg.timestamp)
    (disputed : (world.storage.bindings bindingId).state = .disputed)
    (fits : (world.storage.arbitrations bindingId).startedAt +
      world.storage.config.evidenceWindow +
        world.storage.config.largeDisputeTimeoutSeconds < wordSize)
    (closed : (world.storage.arbitrations bindingId).startedAt +
      world.storage.config.evidenceWindow +
        world.storage.config.largeDisputeTimeoutSeconds ≤ msg.timestamp)
    (scaled : world.storage.pool bindingId * 10000 < wordSize) :
    ∃ next,
      (system deployment).Step world (.call msg ext (.autoResolveArbitration bindingId)) next := by
  have unlocked := reachable_unlocked reachable
  have inDispute := (reachable_arbitrated reachable bindingId).disputed disputed
  have started : (world.storage.arbitrations bindingId).startedAt ≠ 0 := inDispute.started
  have concluded : world.storage.conclude bindingId = world.storage.setArbitration bindingId
      { world.storage.arbitrations bindingId with resolved := true } := by
    rw [conclude_of_disputed disputed, Storage.resolve, if_pos started]
  have marked := payable.conclude
  rw [concluded] at marked
  have entered : Payable deployment ext
      { world with
        now := msg.timestamp
        status := 2
        storage := world.storage.setArbitration bindingId
          { world.storage.arbitrations bindingId with resolved := true } } bindingId :=
    marked.frame rfl rfl
  have windowFits := (Nat.le_add_right _ _).trans_lt fits
  have windowClosed := (Nat.le_add_right _ _).trans closed
  have pool := (payable.valid.retirable payable.opened payable.live).pool
  have adminTimeout : ∀ totalPool, requireAdminTimeout deployment msg
      { world with now := msg.timestamp, status := 2 } bindingId totalPool
      ((world.storage.arbitrations bindingId).startedAt + world.storage.config.evidenceWindow) =
        .ok () := by
    intro totalPool
    unfold requireAdminTimeout
    split
    · simp only [bind_eq_ok, checkedAdd_eq_ok, require_eq_ok]
      exact ⟨_, ⟨fits, rfl⟩, closed⟩
    · rfl
  obtain ⟨paid, resolved⟩ := entered.autoOutcome scaled (world.storage.bindings bindingId).proofHash
    (decide ((world.storage.arbitrations bindingId).buyerSubmittedAt ≠ 0))
    (decide ((world.storage.arbitrations bindingId).agentSubmittedAt ≠ 0))
  simp only [step_call, exec, dispatch, autoResolveArbitration, bind_eq_ok, enter_eq_ok,
    requireBinding_eq_ok, require_eq_ok, checkedAdd_eq_ok, Except.ok.injEq]
  exact ⟨_, later, _, ⟨by simp [unlocked], rfl⟩, _, ⟨payable.opened, rfl⟩, (), disputed, (), started,
    (), inDispute.unresolved, _, ⟨windowFits, rfl⟩, (), windowClosed, _, ⟨pool, rfl⟩, (),
    adminTimeout _, paid, resolved, rfl⟩

omit reachable

/-- Without a guard and a fee bridge, and as long as the tokens decline nothing, the owner
of every free bill can unlock it, and every live binding can be left once its time is up:
by a refund, a finalization, or the resolution of its dispute. -/
theorem exits_enabled (reachable : (system deployment).Reachable world)
    (unguarded : world.storage.config.emergencyGuard = 0)
    (unbridged : world.storage.config.feeBridge = 0)
    (accepted : ∀ token target, ext.refuses token deployment.self target = false) :
    (∀ (msg : Message deployment) (billId : Nat), world.now ≤ msg.timestamp →
      world.storage.Issued billId →
      (world.storage.bills billId).state = .minted →
      (world.storage.bills billId).owner = msg.sender →
      ∃ next, (system deployment).Step world (.call msg ext (.unlock billId)) next) ∧
    (∀ (msg : Message deployment) (bindingId : Nat), world.now ≤ msg.timestamp →
      world.storage.Opened bindingId →
      (world.storage.bindings bindingId).state = .active ∨
        (world.storage.bindings bindingId).state = .pending →
      (world.storage.bindings bindingId).createdAt +
        world.storage.config.settleTimeoutSeconds < wordSize →
      (world.storage.bindings bindingId).createdAt +
        world.storage.config.settleTimeoutSeconds ≤ msg.timestamp →
      msg.sender = world.storage.buyerOwner bindingId →
      ∃ next, (system deployment).Step world (.call msg ext (.refundOnTimeout bindingId)) next) ∧
    (∀ (msg : Message deployment) (bindingId : Nat), world.now ≤ msg.timestamp →
      world.storage.Opened bindingId →
      (world.storage.bindings bindingId).state = .finalizing →
      (world.storage.bindings bindingId).settleSubmittedAt +
        world.storage.config.disputeWindow < wordSize →
      (world.storage.bindings bindingId).settleSubmittedAt +
        world.storage.config.disputeWindow ≤ msg.timestamp →
      ∃ next, (system deployment).Step world (.call msg ext (.finalizeSettle bindingId)) next) ∧
    (∀ (msg : Message deployment) (bindingId : Nat), world.now ≤ msg.timestamp →
      world.storage.Opened bindingId →
      (world.storage.bindings bindingId).state = .disputed →
      (world.storage.arbitrations bindingId).startedAt + world.storage.config.evidenceWindow +
        world.storage.config.largeDisputeTimeoutSeconds < wordSize →
      (world.storage.arbitrations bindingId).startedAt + world.storage.config.evidenceWindow +
        world.storage.config.largeDisputeTimeoutSeconds ≤ msg.timestamp →
      world.storage.pool bindingId * 10000 < wordSize →
      ∃ next,
        (system deployment).Step world (.call msg ext (.autoResolveArbitration bindingId)) next) := by
  have payable : ∀ bindingId, _ → _ → Payable deployment ext world bindingId :=
    fun bindingId opened live =>
    reachable_payable reachable opened live unguarded unbridged accepted
  refine ⟨?_, ?_, ?_, ?_⟩
  · intro msg billId later issued minted owner
    exact unlock_enabled reachable accepted later issued minted owner
  · intro msg bindingId later opened started fits timeout buyer
    have live : (world.storage.bindings bindingId).state.live = true := by
      rcases started with state | state <;> rw [state] <;> rfl
    exact refundOnTimeout_enabled reachable (payable bindingId opened live) later started fits timeout
      buyer
  · intro msg bindingId later opened finalizing fits closed
    have live : (world.storage.bindings bindingId).state.live = true := by rw [finalizing]; rfl
    exact finalizeSettle_enabled reachable (payable bindingId opened live) later finalizing fits closed
  · intro msg bindingId later opened disputed fits closed scaled
    have live : (world.storage.bindings bindingId).state.live = true := by rw [disputed]; rfl
    exact autoResolveArbitration_enabled reachable (payable bindingId opened live) later disputed fits
      closed scaled

theorem exits_enabled_disputed : ∃ next,
    (system Demo.deployment).Step Demo.disputed.world
      (Demo.call Demo.agent 1000000 (.autoResolveArbitration 1)) next :=
  (exits_enabled Demo.disputed.reachable (by decide +kernel) (by decide +kernel)
    fun _ _ => rfl).2.2.2 _ 1 (by decide +kernel) (by decide +kernel) (by decide +kernel)
      (by decide +kernel) (by decide +kernel) (by decide +kernel)

end Exits

end TrustChain.Bilateral
