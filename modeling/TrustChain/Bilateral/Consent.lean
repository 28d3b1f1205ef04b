import TrustChain.Bilateral.Accounting
import TrustChain.Bilateral.Lifecycle

/-!
# What a party can lose without taking part

A party that only locks and unlocks bills never gets less out of the contract than it
put in, as long as no payout leaves it, as the agent of a binding it never agreed to,
with less than its own bill. The contract does not enforce that condition: anybody can
bind a bill of another party, dispute the binding and collect the whole pool.
-/

namespace TrustChain.Bilateral

open Library Function Storage

/-! ## Stakes on the ledger -/

section Stakes

variable {Account Token : Type} [DecidableEq Account] [DecidableEq Token]

/-- Amount of a bill of `account` in `token` that is not burned. -/
def Bill.stake (account : Account) (token : Token) (bill : Bill Account Token) : Nat :=
  if (bill.owner = account ∧ bill.token = token) ∧ bill.state ≠ .burned then bill.amount else 0

namespace Ledger

variable {ledger : Ledger Account Token}

/-- What `account` has in the ledger, in `token`. -/
def stake (ledger : Ledger Account Token) (account : Account) (token : Token) : Nat :=
  tally ledger.billCount ledger.bill (Bill.stake account token)

theorem stake_mint (owner account : Account) (token query : Token) (amount : Nat) :
    (ledger.mint owner token amount).stake account query =
      ledger.stake account query + if owner = account ∧ token = query then amount else 0 := by
  simp [stake, Ledger.mint, tally_push, Bill.stake]

theorem stake_bind {buyerId agentId : Nat} (bindable : ledger.Bindable buyerId agentId)
    (account : Account) (token : Token) :
    (ledger.bind buyerId agentId).stake account token = ledger.stake account token := by
  have different := bindable.buyer_ne_agent
  obtain ⟨⟨buyerLower, buyerUpper⟩, ⟨agentLower, agentUpper⟩, buyerMinted, agentMinted, -, -⟩ :=
    bindable
  have exchange := tally_update_two buyerLower buyerUpper agentLower agentUpper different
    ledger.bill { ledger.bill buyerId with state := .bound }
    { ledger.bill agentId with state := .bound } (Bill.stake account token)
  simp only [Bill.stake, buyerMinted, agentMinted, ne_eq, reduceCtorEq, not_false_eq_true,
    and_true] at exchange
  simp only [stake, Ledger.bind]
  omega

theorem stake_close {pactId : Nat} (sound : ledger.Sound (ledger.pact pactId))
    (account : Account) (token : Token) :
    (ledger.close pactId).stake account token +
        Bill.stake account token (ledger.bill (ledger.pact pactId).buyer) +
        Bill.stake account token (ledger.bill (ledger.pact pactId).agent) =
      ledger.stake account token := by
  have different := sound.buyer_ne_agent
  obtain ⟨⟨buyerLower, buyerUpper⟩, ⟨agentLower, agentUpper⟩, -, -, -, -⟩ := sound
  have exchange := tally_update_two buyerLower buyerUpper agentLower agentUpper different
    ledger.bill { ledger.bill (ledger.pact pactId).buyer with state := .burned }
    { ledger.bill (ledger.pact pactId).agent with state := .burned } (Bill.stake account token)
  have burned : ∀ bill : Bill Account Token,
      Bill.stake account token { bill with state := .burned } = 0 := by
    intro bill
    simp [Bill.stake]
  rw [burned, burned] at exchange
  simp only [stake, Ledger.close]
  omega

theorem stake_withdraw {billId : Nat} (isBill : ledger.IsBill billId) (account : Account)
    (token : Token) :
    (ledger.withdraw billId).stake account token + Bill.stake account token (ledger.bill billId) =
      ledger.stake account token := by
  have exchange := tally_update isBill.1 isBill.2 ledger.bill
    { ledger.bill billId with state := .burned } (Bill.stake account token)
  have burned : Bill.stake account token { ledger.bill billId with state := .burned } = 0 := by
    simp [Bill.stake]
  rw [burned] at exchange
  simp only [stake, Ledger.withdraw]
  omega

end Ledger

end Stakes

/-! ## A passive party -/

/-- The calls of a party that only deposits and withdraws. -/
def Call.isDeposit : Call → Bool
  | .lock _ _ | .unlock _ => true
  | _ => false

/-- Whether an action is none of the calls of `party` except deposits and withdrawals. -/
def Action.onlyDeposits {deployment : Deployment} (party : Address) : Action deployment → Bool
  | .call msg _ made => msg.sender != party || made.isDeposit
  | .token _ _ => true

section Passive

variable {deployment : Deployment} {ext : Externals} {msg : Message deployment}
  {party : Address} {storage next : Storage} {call : Call} {calls : List TokenCall}
  {bindingId : Nat}

variable (ext party storage) in
/-- The fee on the pool of a binding can be taken out of the buyer's bill alone. -/
def FeeWithinBuyer (bindingId : Nat) : Prop :=
  storage.config.feeBridge ≠ 0 → ∀ quoted,
    ext.quoteFee
        (developerOf storage.config bindingId
          (storage.bills (storage.bindings bindingId).agentBillId))
        (storage.pool bindingId) = some quoted →
      feeOf quoted (storage.pool bindingId) ≤
        (storage.bills (storage.bindings bindingId).buyerBillId).amount

variable (ext party storage) in
/-- No payout is taken that leaves `party`, as an agent, with less than its bill. -/
def Spares : Call → Prop
  | .autoResolveArbitration bindingId => storage.agentOwner bindingId ≠ party
  | .resolveDispute bindingId buyerShareBps => storage.agentOwner bindingId = party →
      buyerShare (storage.pool bindingId) buyerShareBps ≤
        (storage.bills (storage.bindings bindingId).buyerBillId).amount
  | .settle bindingId _ => storage.agentOwner bindingId = party →
      storage.requiresAttestation bindingId = true → FeeWithinBuyer ext storage bindingId
  | .finalizeSettle bindingId => storage.agentOwner bindingId = party →
      FeeWithinBuyer ext storage bindingId
  | _ => True

/-- A step that `party` does not take part in, and that spares it. -/
def Passive (party : Address) (world : World) (action : Action deployment) : Prop :=
  action.onlyDeposits party = true ∧
    ∀ msg ext call, action = .call msg ext call → Spares ext party world.storage call

/-- No opened binding has a buyer's bill of `party`. -/
def NoBuyer (party : Address) (storage : Storage) : Prop :=
  ∀ bindingId, storage.Opened bindingId → storage.buyerOwner bindingId ≠ party

/-- What `party` still has in the contract, in `token`. -/
def Storage.holdings (storage : Storage) (token party : Address) : Nat :=
  storage.billSum fun bill => (bill.owner = party ∧ bill.token = token) ∧ bill.state ≠ .burned

theorem holdings_eq (storage : Storage) (token party : Address) :
    storage.holdings token party = storage.ledger.stake party token := rfl

/-- Only the buyer opens a binding on its bill, so a passive party never is one. -/
theorem Change.noBuyer (valid : Valid storage)
    (change : Change deployment ext msg storage call next calls)
    (deposits : msg.sender = party → call.isDeposit = true) (noBuyer : NoBuyer party storage) :
    NoBuyer party next := by
  intro bindingId opened
  by_cases before : storage.Opened bindingId
  · obtain ⟨-, buyerBillId_eq, -⟩ := change.binding_kept valid before
    obtain ⟨-, kept⟩ := change.bill_kept valid (valid.bills_issued before).1
    have owner : next.buyerOwner bindingId = storage.buyerOwner bindingId := by
      unfold Storage.buyerOwner
      rw [buyerBillId_eq]
      exact kept.owner_eq
    rw [owner]
    exact noBuyer bindingId before
  · have fate := change.fate valid bindingId
    generalize dossier_eq : next.dossier bindingId = dossier at fate
    have binding_eq : next.bindings bindingId = dossier.binding := congrArg Dossier.binding dossier_eq
    generalize (if call.binding = some bindingId then calls else []) = own at fate
    cases fate with
    | kept call unnamed =>
        unfold Storage.Opened at opened
        rw [binding_eq] at opened
        exact absurd opened before
    | opened call terms state unopened binds bindable started =>
        obtain ⟨-, kept⟩ := change.bill_kept valid bindable.buyer_issued
        have owner : next.buyerOwner bindingId = msg.sender := by
          unfold Storage.buyerOwner
          rw [binding_eq]
          exact kept.owner_eq.trans bindable.buyer_owner
        rw [owner]
        intro isParty
        have deposit := deposits isParty
        cases binds <;> cases deposit
    | submitted _ opened => exact absurd opened before
    | disputed _ opened => exact absurd opened before
    | evidence _ _ opened => exact absurd opened before
    | paid _ _ _ opened => exact absurd opened before

/-- A passive agent gets at least its own bill out of the payout of a binding. -/
theorem Entitled.spared {payout : Payout} {fee buyerPart agentPart : Nat}
    (entitled : Entitled deployment msg storage call bindingId payout)
    (spares : Spares ext party storage call) (isAgent : storage.agentOwner bindingId = party)
    (shared : Shared ext storage.config bindingId
      (storage.bills (storage.bindings bindingId).buyerBillId)
      (storage.bills (storage.bindings bindingId).agentBillId) payout calls fee buyerPart
      agentPart) :
    (storage.bills (storage.bindings bindingId).agentBillId).amount ≤ agentPart := by
  have whole := shared.sum_eq
  have parts := shared.parts
  have charged : FeeWithinBuyer ext storage bindingId → (fee = 0 ∨ storage.config.feeBridge ≠ 0 ∧
      ∃ quoted, ext.quoteFee
        (developerOf storage.config bindingId
          (storage.bills (storage.bindings bindingId).agentBillId)) (storage.pool bindingId) =
            some quoted ∧ fee = feeOf quoted (storage.pool bindingId)) →
      fee ≤ (storage.bills (storage.bindings bindingId).buyerBillId).amount := by
    rintro within (none | ⟨bridge, quoted, quote, rfl⟩)
    · rw [none]
      exact Nat.zero_le _
    · exact within bridge quoted quote
  cases entitled with
  | attested _ proofHash started attested gateway =>
      obtain ⟨none, fee_eq⟩ := parts
      have enough := charged (spares isAgent attested) fee_eq
      omega
  | finalized _ finalizing closed =>
      obtain ⟨none, fee_eq⟩ := parts
      have enough := charged (spares isAgent) fee_eq
      omega
  | autoResolved => exact absurd isAgent spares
  | adminResolved _ buyerShareBps =>
      obtain ⟨free, part⟩ := parts
      have enough : buyerShare _ buyerShareBps ≤ _ := spares isAgent
      change buyerPart = buyerShare (storage.pool bindingId) buyerShareBps at part
      omega
  | timedOut =>
      obtain ⟨free, buyer, agent⟩ := parts
      exact agent.ge

/-- The payout of a binding brings a passive party at least what it has staked on it. -/
theorem Entitled.repaid {payout : Payout}
    (entitled : Entitled deployment msg storage call bindingId payout)
    (spares : Spares ext party storage call)
    (sameToken : (storage.bills (storage.bindings bindingId).buyerBillId).token =
      (storage.bills (storage.bindings bindingId).agentBillId).token)
    (disbursed : Disbursed ext storage.config bindingId
      (storage.bills (storage.bindings bindingId).buyerBillId)
      (storage.bills (storage.bindings bindingId).agentBillId) payout calls) (token : Address) :
    Bill.stake party token (storage.bills (storage.bindings bindingId).agentBillId).bill ≤
        Erc20.paidTo token party calls ∧
      Erc20.pulledFrom token party calls = 0 := by
  obtain ⟨fee, buyerPart, agentPart, shared⟩ := disbursed.shared
  have paid := shared.total_eq (Erc20.OwnCall.paid token party) fun _ _ => ⟨ite_self 0, rfl⟩
  have pulled := shared.total_eq (Erc20.OwnCall.pulled token party) fun _ _ => ⟨rfl, rfl⟩
  refine ⟨le_of_le_of_eq ?_ paid.symm, pulled⟩
  unfold Bill.stake
  split
  · next counted =>
      obtain ⟨⟨isAgent, isToken⟩, -⟩ := counted
      have spared := entitled.spared spares isAgent shared
      have toAgent : Erc20.OwnCall.paid token party
          (.pay (storage.bills (storage.bindings bindingId).buyerBillId).token
            (storage.bills (storage.bindings bindingId).agentBillId).owner agentPart) = agentPart :=
        if_pos ⟨sameToken.trans isToken, isAgent⟩
      rw [toAgent]
      exact spared.trans (Nat.le_add_left _ _)
  · exact Nat.zero_le _

/-- What a passive party has in the contract shrinks by no more than it is paid, and grows
by all that it locks. -/
theorem Change.stake (valid : Valid storage)
    (change : Change deployment ext msg storage call next calls) (noBuyer : NoBuyer party storage)
    (spares : Spares ext party storage call) (token : Address) :
    storage.holdings token party + Erc20.pulledFrom token party calls ≤
      next.holdings token party + Erc20.paidTo token party calls := by
  simp only [holdings_eq]
  cases change with
  | configured setter config event ran => exact le_rfl
  | locked lockedToken amount nonzero fits =>
      rw [ledger_issue, Ledger.stake_mint]
      simp only [Erc20.total_cons, Erc20.total_nil, Erc20.OwnCall.pulled, Erc20.OwnCall.paid,
        and_comm]
      omega
  | bound call terms state binds bindable started fits =>
      have live : state.live = true := by rcases started with rfl | rfl <;> rfl
      rw [ledger_freeze terms live, Ledger.stake_bind (bindable.ledger valid.wellFormed)]
      exact le_rfl
  | submitted bindingId proofHash opened started unattested party fits =>
      rw [ledger_setBinding]
      · exact le_rfl
      · rcases started with state | state <;> simp [Binding.pact, state, BindingState.live]
  | disputed bindingId evidenceHash opened finalizing early buyer =>
      change _ ≤ (storage.setBinding bindingId _).ledger.stake party token + _
      rw [ledger_setBinding]
      · exact le_rfl
      · simp [Binding.pact, finalizing, BindingState.live]
  | evidence bindingId evidenceHash byBuyer opened disputed started unresolved party => exact le_rfl
  | paid call bindingId payout calls config opened entitled retirable disbursed reconfigured =>
      have sound := valid.consistent.paired.sound bindingId ((opened_iff valid.wellFormed).mp opened)
      have closed := Ledger.stake_close sound party token
      have unpaid := noBuyer bindingId opened
      obtain ⟨repaid, unpulled⟩ := entitled.repaid spares sound.same_token disbursed token
      change _ ≤ ((storage.conclude bindingId).close bindingId payout).ledger.stake party token + _
      rw [ledger_close, ledger_conclude]
      have none : Bill.stake party token
          (storage.bills (storage.bindings bindingId).buyerBillId).bill = 0 :=
        if_neg fun counted => unpaid counted.1.1
      simp only [ledger_pact, ledger_bill, Binding.pact] at closed
      omega
  | released billId issued owner minted =>
      have isBill := (issued_iff valid.wellFormed).mp issued
      have withdrawn := Ledger.stake_withdraw isBill party token
      rw [ledger_release]
      have worth : Bill.stake party token (storage.ledger.bill billId) =
          if (storage.bills billId).token = token ∧ msg.sender = party then
            (storage.bills billId).amount
          else 0 := by
        simp [Bill.stake, BillToken.bill, owner, minted, and_comm]
      rw [worth] at withdrawn
      simp only [Erc20.total_cons, Erc20.total_nil, Erc20.OwnCall.pulled, Erc20.OwnCall.paid]
      omega

end Passive

/-! ## Runs -/

section Runs

variable {deployment : Deployment} {start world next : World} {action : Action deployment}
  {actions : List (Action deployment)} {party : Address}

/-- A passive party has got back, or still has, at least what it put in. -/
structure Whole (party : Address) (world : World) : Prop where
  noBuyer : NoBuyer party world.storage
  covered : ∀ token, Erc20.pulledFrom token party world.tokenCalls ≤
    Erc20.paidTo token party world.tokenCalls + world.storage.holdings token party

theorem Whole.step (reachable : (system deployment).Reachable world) (whole : Whole party world)
    (step : (system deployment).Step world action next) (passive : Passive party world action) :
    Whole party next := by
  obtain ⟨noBuyer, covered⟩ := whole
  have valid := reachable_valid reachable
  obtain ⟨deposits, spares⟩ := passive
  cases reachable_happened reachable step with
  | token token operation ledger foreign ran => exact ⟨noBuyer, covered⟩
  | call msg ext call calls next later effect =>
      have depositing : msg.sender = party → call.isDeposit = true := by
        simpa [Action.onlyDeposits, imp_iff_not_or] using deposits
      refine ⟨effect.change.noBuyer valid depositing noBuyer, fun token => ?_⟩
      have before := covered token
      have kept := effect.change.stake valid noBuyer (spares msg ext call rfl) token
      have tokenCalls_eq : next.tokenCalls = world.tokenCalls ++ calls := effect.around.tokenCalls_eq
      unfold Erc20.pulledFrom Erc20.paidTo at before kept ⊢
      rw [tokenCalls_eq, Erc20.total_append, Erc20.total_append]
      omega

/-- Along every run in which a party only locks and unlocks, and in which no payout is
taken that leaves it as an agent with less than its bill, what it was paid and what it
still has cover what it locked. -/
theorem stake_kept (initial : (system deployment).Init start)
    (run : ((system deployment).restrict (Passive party)).Run start actions world)
    (token : Address) :
    Erc20.pulledFrom token party world.tokenCalls ≤
      Erc20.paidTo token party world.tokenCalls + world.storage.holdings token party := by
  have whole : Whole party start := by
    obtain ⟨storage, -, tokenCalls, -⟩ := initial
    refine ⟨fun bindingId opened => ?_, fun token => ?_⟩
    · rw [storage] at opened
      exact absurd rfl opened
    · rw [tokenCalls]
      exact Nat.zero_le _
  refine (run.preserves_restricted (fun state action next earlier whole step passive => ?_)
    (.init initial) whole : Whole party world).covered token
  exact whole.step earlier step passive

end Runs

namespace Demo

/-- The buyer lets the binding time out and takes both bills back. -/
def refunded : Scene := bound.next (call buyer 1000000 (.refundOnTimeout 1)) (by decide +kernel)

theorem refunded_passive :
    ((system deployment).restrict (Passive agent)).Run start refunded.actions refunded.world := by
  refine refunded.run.restrict fun action member state => ?_
  simp only [refunded, bound, locked, Library.Scene.next, List.cons_append, List.nil_append,
    List.mem_cons, List.not_mem_nil, or_false] at member
  rcases member with rfl | rfl | rfl | rfl | rfl <;>
    exact ⟨by decide +kernel, by rintro msg ext call ⟨⟩; trivial⟩

end Demo

theorem stake_kept_refunded :
    Erc20.pulledFrom Demo.usd Demo.agent Demo.refunded.world.tokenCalls ≤
      Erc20.paidTo Demo.usd Demo.agent Demo.refunded.world.tokenCalls +
        Demo.refunded.world.storage.holdings Demo.usd Demo.agent :=
  stake_kept Demo.start_init Demo.refunded_passive Demo.usd

namespace Demo

/-- Without the agent's doing anything but a lock, the buyer disputes the binding and has
it resolved once the evidence window is over. -/
def seized : Scene :=
  disputed.next (call buyer 262200 (.autoResolveArbitration 1)) (by decide +kernel)

end Demo

/-- The agent's whole stake is gone. -/
theorem stake_seized :
    (system Demo.deployment).Run Demo.start Demo.seized.actions Demo.seized.world ∧
    (∀ action ∈ Demo.seized.actions, action.onlyDeposits Demo.agent = true) ∧
    Erc20.pulledFrom Demo.usd Demo.agent Demo.seized.world.tokenCalls = 50 ∧
    Erc20.paidTo Demo.usd Demo.agent Demo.seized.world.tokenCalls = 0 ∧
    Demo.seized.world.storage.holdings Demo.usd Demo.agent = 0 :=
  ⟨Demo.seized.run, by decide +kernel, by decide +kernel, by decide +kernel, by decide +kernel⟩

end TrustChain.Bilateral
