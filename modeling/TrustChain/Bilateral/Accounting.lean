import TrustChain.Bilateral.Refinement

/-!
# Solvency and consistent books

The contract holds at least what it has locked, also after everything it has approved
was pulled; and its counters are the sums they are named after.
-/

namespace TrustChain.Bilateral

open Library Function Storage

/-- A payout takes exactly the pool out of its token, and nothing out of any other. -/
theorem Disbursed.outflow {ext : Externals} {config : Config} {bindingId : Nat}
    {buyerBill agentBill : BillToken} {payout : Payout} {calls : List TokenCall} (query : Address)
    (disbursed : Disbursed ext config bindingId buyerBill agentBill payout calls) :
    Erc20.outflow query calls =
      (if buyerBill.token = query then buyerBill.amount + agentBill.amount else 0) ∧
      Erc20.inflow query calls = 0 := by
  obtain ⟨fee, buyerPart, agentPart, shared⟩ := disbursed.shared
  have out := shared.total_eq (Erc20.OwnCall.outflow query)
    fun _ _ => ⟨ite_self 0, ite_self 0⟩
  have into := shared.total_eq (Erc20.OwnCall.inflow query) fun _ _ => ⟨rfl, rfl⟩
  refine ⟨out.trans ?_, into⟩
  have whole := shared.sum_eq
  simp only [Erc20.OwnCall.outflow]
  split <;> omega

/-! ## Solvency -/

section Solvency

variable {deployment : Deployment} {ext : Externals} {msg : Message deployment}
  {storage after : Storage} {call : Call} {calls : List TokenCall} {world next : World}

/-- A transaction pays out of what was locked, and locks no more than it took in. -/
theorem Change.funded (valid : Valid storage)
    (change : Change deployment ext msg storage call after calls) (token : Address) :
    Erc20.outflow token calls ≤ storage.totalLocked token ∧
      after.totalLocked token + Erc20.outflow token calls ≤
        storage.totalLocked token + Erc20.inflow token calls := by
  cases change with
  | configured setter config event ran => simp
  | locked lockedToken amount nonzero fits =>
      simp only [Storage.issue, credit_apply, Erc20.total_cons, Erc20.total_nil,
        Erc20.OwnCall.outflow, Erc20.OwnCall.inflow, eq_comm]
      omega
  | bound call terms state binds bindable started fits => simp [Storage.freeze]
  | submitted bindingId proofHash opened started unattested party fits =>
      simp [Storage.setBinding]
  | disputed bindingId evidenceHash opened finalizing early buyer =>
      simp [Storage.setBinding, Storage.setArbitration]
  | evidence bindingId evidenceHash byBuyer opened disputed started unresolved party =>
      simp [Storage.setArbitration]
  | paid call bindingId payout calls config opened entitled retirable disbursed reconfigured =>
      have sound := valid.consistent.paired.sound bindingId ((opened_iff valid.wellFormed).mp opened)
      have sameToken : (storage.bills (storage.bindings bindingId).buyerBillId).token =
          (storage.bills (storage.bindings bindingId).agentBillId).token := sound.same_token
      obtain ⟨out, into⟩ := disbursed.outflow token
      obtain ⟨buyerLocked, agentLocked⟩ := retirable.locked
      obtain ⟨arbitrations, same⟩ := conclude_eq storage bindingId
      rw [out, into, same]
      rw [← sameToken, debit_apply, if_pos rfl] at agentLocked
      simp only [Storage.close, Storage.retire, Storage.setBinding, debit_apply, ← sameToken]
      by_cases isToken : (storage.bills (storage.bindings bindingId).buyerBillId).token = token
      · subst isToken
        simp only [if_true]
        omega
      · simp [isToken, Ne.symm isToken]
  | released billId issued owner minted =>
      have isBill := (issued_iff valid.wellFormed).mp issued
      have counted := le_tally isBill.1 isBill.2 storage.ledger.bill (Bill.circulating token)
      rw [← valid.consistent.balanced.locked_eq token] at counted
      simp only [Bill.circulating, ledger_bill, BillToken.bill, minted, ne_eq, reduceCtorEq,
        not_false_eq_true, and_true] at counted
      change _ ≤ storage.totalLocked token at counted
      simp only [Storage.release, debit_apply, Erc20.total_cons, Erc20.total_nil,
        Erc20.OwnCall.outflow, Erc20.OwnCall.inflow]
      by_cases isToken : (storage.bills billId).token = token
      · subst isToken
        simp only [if_true] at counted ⊢
        omega
      · simp [isToken, Ne.symm isToken]

/-- Whatever the contract has approved is covered on top of what it has locked. -/
theorem reachable_backed (reachable : (system deployment).Reachable world) (token : Address) :
    (world.tokens token).Backed deployment.self (world.storage.totalLocked token) := by
  refine reachable.invariant (fun state initial => ?_) (fun state action next earlier backed step => ?_)
  · intro spenders
    simp [initial.1, initial.2.2.2]
  · cases reachable_happened earlier step with
    | token changed operation ledger foreign ran =>
        by_cases same : changed = token
        · subst same
          simpa using backed.run foreign ran
        · simpa [update_of_ne (Ne.symm same)] using backed
    | call msg ext call calls next later effect =>
        obtain ⟨enough, funded⟩ := effect.change.funded (reachable_valid earlier) token
        have reserve : ((state.tokens token)).Backed deployment.self
            (state.storage.totalLocked token - Erc20.outflow token calls +
              Erc20.outflow token calls) := by
          rwa [Nat.sub_add_cancel enough]
        refine (effect.around.interaction.backed token reserve).mono ?_
        omega

/-- Sum of the amounts of the bills that count. -/
def Storage.billSum (storage : Storage) (counts : BillToken → Prop) [DecidablePred counts] : Nat :=
  tally storage.billCounter storage.bills fun bill => if counts bill then bill.amount else 0

/-- In every reachable world the contract can pay what it has locked, and the two
counters of every token are the sum of its bills that are not burned. -/
theorem solvent (reachable : (system deployment).Reachable world) (token : Address) :
    world.storage.totalLocked token ≤ (world.tokens token).balanceOf deployment.self ∧
      world.storage.totalLocked token = world.storage.totalBillSupply token ∧
      world.storage.totalBillSupply token =
        world.storage.billSum fun bill => bill.token = token ∧ bill.state ≠ .burned := by
  have balanced := (reachable_valid reachable).consistent.balanced
  have supply := balanced.supply_eq token
  have locked := balanced.locked_eq token
  refine ⟨(reachable_backed reachable token).le_balanceOf, locked.trans supply.symm, ?_⟩
  refine supply.trans (tally_congr fun billId _ _ => ?_)
  exact if_congr (and_congr_left' eq_comm) rfl rfl

theorem solvent_disputed :
    Demo.disputed.world.storage.totalLocked Demo.usd ≤
      (Demo.disputed.world.tokens Demo.usd).balanceOf Demo.deployment.self :=
  (solvent Demo.disputed.reachable Demo.usd).1

end Solvency

/-! ## The books -/

section Books

variable {deployment : Deployment} {world : World}

/-- Sum of the pools of the bindings of `token` that are still live. -/
def Storage.liveSum (storage : Storage) (token : Address) : Nat :=
  tally storage.bindingCounter storage.bindings fun b =>
    if b.state.live = true ∧ (storage.bills b.buyerBillId).token = token then
      (storage.bills b.buyerBillId).amount + (storage.bills b.agentBillId).amount
    else 0

/-- What the counters, the bills and the bindings say about each other. -/
structure Books (storage : Storage) : Prop where
  freeBalance_eq : ∀ account, storage.freeBalance account =
    storage.billSum fun bill => bill.owner = account ∧ bill.state = .minted
  boundBalance_eq : ∀ account, storage.boundBalance account =
    storage.billSum fun bill => bill.owner = account ∧ bill.state = .bound
  totalMintedByAddr_eq : ∀ account, storage.totalMintedByAddr account =
    storage.freeBalance account + storage.boundBalance account
  totalLockedByAddr_eq : ∀ account, storage.totalLockedByAddr account =
    storage.freeBalance account + storage.boundBalance account
  pendingBatchAmount_eq : ∀ token, storage.pendingBatchAmount token = storage.liveSum token
  bound_once : ∀ billId, (storage.bills billId).state = .bound →
    ∃! bindingId, storage.Opened bindingId ∧ (storage.bindings bindingId).state.live = true ∧
      ((storage.bindings bindingId).buyerBillId = billId ∨
        (storage.bindings bindingId).agentBillId = billId)
  sides_ne : ∀ bindingId, storage.Opened bindingId →
    (storage.bindings bindingId).buyerBillId ≠ (storage.bindings bindingId).agentBillId
  closed_burned : ∀ bindingId, (storage.bindings bindingId).state = .settled ∨
      (storage.bindings bindingId).state = .refunded →
    (storage.bills (storage.bindings bindingId).buyerBillId).state = .burned ∧
      (storage.bills (storage.bindings bindingId).agentBillId).state = .burned
  same_token : ∀ bindingId, storage.Opened bindingId →
    (storage.bills (storage.bindings bindingId).buyerBillId).token =
      (storage.bills (storage.bindings bindingId).agentBillId).token
  owners_ne : ∀ bindingId, storage.Opened bindingId →
    (storage.bills (storage.bindings bindingId).buyerBillId).owner ≠
      (storage.bills (storage.bindings bindingId).agentBillId).owner

theorem Valid.books {storage : Storage} (valid : Valid storage) : Books storage := by
  obtain ⟨⟨balanced, paired⟩, wellFormed⟩ := valid
  constructor
  case freeBalance_eq =>
    intro account
    refine (balanced.free_eq account).trans (tally_congr fun billId _ _ => ?_)
    exact if_congr (and_congr_left' eq_comm) rfl rfl
  case boundBalance_eq =>
    intro account
    refine (balanced.bound_eq account).trans (tally_congr fun billId _ _ => ?_)
    exact if_congr (and_congr_left' eq_comm) rfl rfl
  case totalMintedByAddr_eq => exact balanced.minted_eq
  case totalLockedByAddr_eq => exact balanced.lockedBy_eq
  case pendingBatchAmount_eq =>
    intro token
    refine (paired.pending_eq token).trans (tally_congr fun bindingId _ _ => ?_)
    simp only [Ledger.pactAmount, ledger_pact, ledger_bill, Binding.pact, BillToken.bill, eq_comm]
  case bound_once =>
    intro billId isBound
    have isBill : storage.ledger.IsBill billId := by
      by_contra fresh
      rw [wellFormed.bills.outside billId fresh] at isBound
      cases isBound
    obtain ⟨bindingId, isPact, live, uses⟩ := paired.bound_used billId isBill isBound
    refine ⟨bindingId, ⟨(opened_iff wellFormed).mpr isPact, live, uses⟩, ?_⟩
    rintro otherId ⟨opened, -, otherUses⟩
    exact paired.exclusive otherId bindingId billId ((opened_iff wellFormed).mp opened) isPact
      otherUses uses
  case sides_ne =>
    intro bindingId opened
    exact (paired.sound bindingId ((opened_iff wellFormed).mp opened)).buyer_ne_agent
  case closed_burned =>
    intro bindingId closed
    have isPact : storage.ledger.IsPact bindingId := by
      by_contra fresh
      rw [wellFormed.bindings.outside bindingId fresh] at closed
      rcases closed with closed | closed <;> cases closed
    have sound := paired.sound bindingId isPact
    have dead : (storage.ledger.pact bindingId).live = false := by
      rcases closed with closed | closed <;> simp [Binding.pact, closed, BindingState.live]
    have buyer := sound.buyer_state
    have agent := sound.agent_state
    rw [dead] at buyer agent
    exact ⟨buyer, agent⟩
  case same_token =>
    intro bindingId opened
    exact (paired.sound bindingId ((opened_iff wellFormed).mp opened)).same_token
  case owners_ne =>
    intro bindingId opened
    exact (paired.sound bindingId ((opened_iff wellFormed).mp opened)).owners_ne

/-- The books of every reachable world are in order. -/
theorem books_consistent (reachable : (system deployment).Reachable world) : Books world.storage :=
  (reachable_valid reachable).books

theorem books_consistent_disputed : Books Demo.disputed.world.storage :=
  books_consistent Demo.disputed.reachable

end Books

end TrustChain.Bilateral
