import TrustChain.Bilateral.Operations

/-!
# What the payout routines do

Each routine is summed up once: what it requires of the counters (`Retirable`), the
storage it leaves (`close`), the token calls it makes (`Disbursed`), and what may change
around it while tokens and the fee bridge run (`Aftermath`).
-/

namespace TrustChain.Bilateral

open Library Function Storage

/-! ## Surroundings -/

/-- Configurations that setters called by the fee bridge can leave behind. -/
inductive Reconfigured (deployment : Deployment) (reentries : List Reentry) (storage : Storage) :
    Config → Prop
  | refl : Reconfigured deployment reentries storage storage.config
  | setter {config next : Config} {sender : Address} {setter : Setter} {event : Event} :
      Reconfigured deployment reentries storage config →
      Reentry.setter sender setter ∈ reentries →
      runSetter deployment sender { storage with config := config } setter = .ok (next, event) →
      Reconfigured deployment reentries storage next

theorem Reconfigured.trans {deployment : Deployment} {reentries : List Reentry}
    {storage : Storage} {middle next : Config}
    (first : Reconfigured deployment reentries storage middle)
    (second : Reconfigured deployment reentries { storage with config := middle } next) :
    Reconfigured deployment reentries storage next := by
  induction second with
  | refl => exact first
  | setter _ member ran ih => exact ih.setter member ran

/-- The contract made these calls, in this order, while others used the tokens as well. -/
structure Surroundings (deployment : Deployment) (world : World) (calls : List TokenCall)
    (next : World) : Prop where
  tokenCalls_eq : next.tokenCalls = world.tokenCalls ++ calls
  interaction : Erc20.Interaction deployment.self world.tokens calls next.tokens
  now_eq : next.now = world.now

/-- What the contract's own calls to others leave behind: only the tokens, the
configuration and the event log can differ. -/
structure Aftermath (deployment : Deployment) (reentries : List Reentry) (world : World)
    (calls : List TokenCall) (next : World) : Prop
    extends Surroundings deployment world calls next where
  storage_eq : next.storage = { world.storage with config := next.storage.config }
  reconfigured : Reconfigured deployment reentries world.storage next.storage.config

theorem Surroundings.silent {deployment : Deployment} {world next : World}
    (tokens : next.tokens = world.tokens) (tokenCalls : next.tokenCalls = world.tokenCalls)
    (now : next.now = world.now) : Surroundings deployment world [] next where
  tokenCalls_eq := by rw [tokenCalls, List.append_nil]
  interaction := by rw [tokens]; exact .nil
  now_eq := now

theorem transfer_ok {deployment : Deployment} {ext : Externals} {world next : World}
    {token target : Address} {amount : Nat}
    (ran : world.transfer deployment ext token target amount = .ok next) :
    next.storage = world.storage ∧
      Surroundings deployment world [.pay token target amount] next := by
  unfold World.transfer at ran
  split at ran
  · cases ran
  · split at ran
    · cases ran
    · next ledger paid =>
        cases ran
        exact ⟨rfl, rfl, Erc20.Interaction.nil.pay paid, rfl⟩

theorem transferFrom_ok {deployment : Deployment} {ext : Externals} {world next : World}
    {token source : Address} {amount : Nat} (foreign : source ≠ deployment.self)
    (ran : world.transferFrom deployment ext token source amount = .ok next) :
    next.storage = world.storage ∧
      Surroundings deployment world [.pull token source amount] next := by
  unfold World.transferFrom at ran
  split at ran
  · cases ran
  · split at ran
    · cases ran
    · next ledger pulled =>
        cases ran
        exact ⟨rfl, rfl, Erc20.Interaction.nil.pull foreign pulled, rfl⟩

namespace Aftermath

variable {deployment : Deployment} {ext : Externals} {reentries : List Reentry}
  {world middle next : World} {calls more : List TokenCall}

theorem trans (first : Aftermath deployment reentries world calls middle)
    (second : Aftermath deployment reentries middle more next) :
    Aftermath deployment reentries world (calls ++ more) next where
  storage_eq := by rw [second.storage_eq, first.storage_eq]
  reconfigured := by
    have later := second.reconfigured
    rw [first.storage_eq] at later
    exact first.reconfigured.trans later
  tokenCalls_eq := by rw [second.tokenCalls_eq, first.tokenCalls_eq, List.append_assoc]
  interaction := first.interaction.append second.interaction
  now_eq := second.now_eq.trans first.now_eq

theorem refl : Aftermath deployment reentries world [] world :=
  ⟨.silent rfl rfl rfl, rfl, .refl⟩

theorem emit (after : Aftermath deployment reentries world calls next) (event : Event) :
    Aftermath deployment reentries world calls (next.emit event) where
  storage_eq := after.storage_eq
  reconfigured := after.reconfigured
  tokenCalls_eq := after.tokenCalls_eq
  interaction := after.interaction
  now_eq := after.now_eq

theorem approve (token spender : Address) (amount : Nat) :
    Aftermath deployment reentries world [.allow token spender amount]
      (world.approve deployment token spender amount) where
  storage_eq := rfl
  reconfigured := .refl
  tokenCalls_eq := rfl
  interaction := Erc20.Interaction.nil.allow
  now_eq := rfl

theorem transfer {token target : Address} {amount : Nat}
    (ran : world.transfer deployment ext token target amount = .ok next) :
    Aftermath deployment reentries world [.pay token target amount] next := by
  obtain ⟨same, around⟩ := transfer_ok ran
  exact ⟨around, by rw [same], by rw [same]; exact .refl⟩

theorem runReentry {reentry : Reentry} (member : reentry ∈ reentries) :
    Aftermath deployment reentries world [] (runReentry deployment world reentry) := by
  cases reentry with
  | token token operation =>
      simp only [Bilateral.runReentry]
      split
      · exact refl
      · next foreign =>
          split
          · next ledger ran =>
              exact ⟨⟨(List.append_nil _).symm, Erc20.Interaction.nil.others foreign ran, rfl⟩,
                rfl, .refl⟩
          · exact refl
  | setter sender setter =>
      simp only [Bilateral.runReentry]
      split
      · next written ran =>
          exact ⟨.silent rfl rfl rfl, rfl, Reconfigured.refl.setter member ran⟩
      · exact refl

theorem reenter (remaining : List Reentry) (within : ∀ reentry ∈ remaining, reentry ∈ reentries) :
    Aftermath deployment reentries world [] (reenter deployment world remaining) := by
  induction remaining generalizing world with
  | nil => exact refl
  | cons reentry remaining ih =>
      have first : Aftermath deployment reentries world []
          (Bilateral.runReentry deployment world reentry) :=
        runReentry (within reentry List.mem_cons_self)
      exact first.trans (ih fun later member => within later (List.mem_cons_of_mem _ member))

end Aftermath

/-- `if (amount > 0) _transfer(..)` as a list of calls. -/
def payCalls (token target : Address) (amount : Nat) : List TokenCall :=
  if 0 < amount then [.pay token target amount] else []

theorem Aftermath.transferPositive {deployment : Deployment} {ext : Externals}
    {reentries : List Reentry} {world next : World} {token target : Address} {amount : Nat}
    (ran : world.transferPositive deployment ext token target amount = .ok next) :
    Aftermath deployment reentries world (payCalls token target amount) next := by
  unfold World.transferPositive at ran
  by_cases positive : 0 < amount
  · rw [if_pos positive] at ran
    rw [payCalls, if_pos positive]
    exact .transfer ran
  · rw [if_neg positive] at ran
    rw [payCalls, if_neg positive]
    cases ran
    exact .refl

/-! ## Bookkeeping -/

namespace Storage

/-- What the counters must allow before two bills can be retired. -/
structure Retirable (storage : Storage) (buyerBill agentBill : BillToken) : Prop where
  bound : buyerBill.amount ≤ storage.boundBalance buyerBill.owner ∧
    agentBill.amount ≤
      debit storage.boundBalance buyerBill.owner buyerBill.amount agentBill.owner
  minted : buyerBill.amount ≤ storage.totalMintedByAddr buyerBill.owner ∧
    agentBill.amount ≤
      debit storage.totalMintedByAddr buyerBill.owner buyerBill.amount agentBill.owner
  lockedBy : buyerBill.amount ≤ storage.totalLockedByAddr buyerBill.owner ∧
    agentBill.amount ≤
      debit storage.totalLockedByAddr buyerBill.owner buyerBill.amount agentBill.owner
  supply : buyerBill.amount ≤ storage.totalBillSupply buyerBill.token ∧
    agentBill.amount ≤
      debit storage.totalBillSupply buyerBill.token buyerBill.amount agentBill.token
  locked : buyerBill.amount ≤ storage.totalLocked buyerBill.token ∧
    agentBill.amount ≤
      debit storage.totalLocked buyerBill.token buyerBill.amount agentBill.token
  pool : buyerBill.amount + agentBill.amount < wordSize
  pending : buyerBill.amount + agentBill.amount ≤ storage.pendingBatchAmount buyerBill.token

/-- Writing a binding touches no counter. -/
theorem retirable_setBinding {storage : Storage} {bindingId : Nat} {b : Binding}
    {buyerBill agentBill : BillToken} :
    (storage.setBinding bindingId b).Retirable buyerBill agentBill ↔
      storage.Retirable buyerBill agentBill := by
  constructor
  all_goals
    rintro ⟨bound, minted, lockedBy, supply, locked, pool, pending⟩
    exact ⟨bound, minted, lockedBy, supply, locked, pool, pending⟩

/-- Both bills of a binding burned and taken out of every counter. -/
def retire (storage : Storage) (b : Binding) : Storage :=
  let buyerBill := storage.bills b.buyerBillId
  let agentBill := storage.bills b.agentBillId
  let debitTwo (totals : Address → Nat) (buyerKey agentKey : Address) : Address → Nat :=
    debit (debit totals buyerKey buyerBill.amount) agentKey agentBill.amount
  { storage with
    bills := update (update storage.bills b.buyerBillId { buyerBill with state := .burned })
      b.agentBillId { agentBill with state := .burned }
    totalBillSupply := debitTwo storage.totalBillSupply buyerBill.token agentBill.token
    totalLocked := debitTwo storage.totalLocked buyerBill.token agentBill.token
    pendingBatchAmount := debit storage.pendingBatchAmount buyerBill.token
      (buyerBill.amount + agentBill.amount)
    boundBalance := debitTwo storage.boundBalance buyerBill.owner agentBill.owner
    totalMintedByAddr := debitTwo storage.totalMintedByAddr buyerBill.owner agentBill.owner
    totalLockedByAddr := debitTwo storage.totalLockedByAddr buyerBill.owner agentBill.owner }

end Storage

theorem decrementBound_eq_ok {storage next : Storage} {addr : Address} {amount : Nat} :
    storage.decrementBound addr amount = .ok next ↔
      (amount ≤ storage.boundBalance addr ∧ amount ≤ storage.totalMintedByAddr addr ∧
        amount ≤ storage.totalLockedByAddr addr) ∧
      next = { storage with
        boundBalance := debit storage.boundBalance addr amount
        totalMintedByAddr := debit storage.totalMintedByAddr addr amount
        totalLockedByAddr := debit storage.totalLockedByAddr addr amount } := by
  simp only [Storage.decrementBound, checkedDebit_bind_eq_ok, Except.ok.injEq, and_assoc,
    eq_comm (a := next)]

theorem burnBill_eq_ok {world next : World} {billId : Nat} {bill : BillToken} {reason : String} :
    world.burnBill billId bill reason = .ok next ↔
      (bill.amount ≤ world.storage.totalBillSupply bill.token ∧
        bill.amount ≤ world.storage.totalLocked bill.token) ∧
      next = World.emit { world with storage := { world.storage with
        bills := update world.storage.bills billId { bill with state := .burned }
        totalBillSupply := debit world.storage.totalBillSupply bill.token bill.amount
        totalLocked := debit world.storage.totalLocked bill.token bill.amount } }
        (.billBurned billId bill.owner bill.amount reason) := by
  simp only [World.burnBill, checkedDebit_bind_eq_ok, Except.ok.injEq, and_assoc,
    eq_comm (a := next)]

/-- The events of two burned bills. -/
def World.burned (world : World) (b : Binding) (reason : String) : World :=
  let buyerBill := world.storage.bills b.buyerBillId
  let agentBill := world.storage.bills b.agentBillId
  (world.emit (.billBurned b.buyerBillId buyerBill.owner buyerBill.amount reason)).emit
    (.billBurned b.agentBillId agentBill.owner agentBill.amount reason)

theorem retireBills_eq_ok {world next : World} {b : Binding} {reason : String} :
    retireBills world b reason = .ok next ↔
      world.storage.Retirable (world.storage.bills b.buyerBillId)
        (world.storage.bills b.agentBillId) ∧
      next = { world.burned b reason with storage := world.storage.retire b } := by
  unfold retireBills
  simp only [bind_eq_ok, decrementBound_eq_ok, burnBill_eq_ok, checkedAdd_eq_ok,
    checkedDebit_eq_ok, Except.ok.injEq]
  constructor
  · rintro ⟨_, ⟨buyer, rfl⟩, _, ⟨agent, rfl⟩, _, ⟨buyerBurn, rfl⟩, _, ⟨agentBurn, rfl⟩,
      _, ⟨pool, rfl⟩, _, ⟨pending, rfl⟩, rfl⟩
    refine ⟨?_, rfl⟩
    exact {
      bound := ⟨buyer.1, agent.1⟩
      minted := ⟨buyer.2.1, agent.2.1⟩
      lockedBy := ⟨buyer.2.2, agent.2.2⟩
      supply := ⟨buyerBurn.1, agentBurn.1⟩
      locked := ⟨buyerBurn.2, agentBurn.2⟩
      pool
      pending }
  · rintro ⟨able, rfl⟩
    refine ⟨_, ⟨⟨able.bound.1, able.minted.1, able.lockedBy.1⟩, rfl⟩,
      _, ⟨⟨able.bound.2, able.minted.2, able.lockedBy.2⟩, rfl⟩,
      _, ⟨⟨able.supply.1, able.locked.1⟩, rfl⟩, _, ⟨⟨able.supply.2, able.locked.2⟩, rfl⟩,
      _, ⟨able.pool, rfl⟩, _, ⟨able.pending, rfl⟩, rfl⟩

theorem checkInvariant_eq_ok {world next : World} {token : Address} :
    world.checkInvariant token = .ok next ↔
      world.storage.totalBillSupply token = world.storage.totalLocked token ∧
      next = world.emit (.invariantChecked token (world.storage.totalBillSupply token)
        (world.storage.totalLocked token)) := by
  simp only [World.checkInvariant, require_bind_eq_ok, Except.ok.injEq, eq_comm (a := next)]

theorem checkPerAddressInvariant_eq_ok {storage : Storage} {addr : Address} {value : Unit} :
    storage.checkPerAddressInvariant addr = .ok value ↔
      storage.freeBalance addr + storage.boundBalance addr < wordSize ∧
      storage.freeBalance addr + storage.boundBalance addr = storage.totalMintedByAddr addr := by
  simp only [Storage.checkPerAddressInvariant, checkedAdd_bind_eq_ok, require_eq_ok]

theorem checkPayout_eq_ok {world next : World} {token buyerOwner agentOwner : Address} :
    checkPayout world token buyerOwner agentOwner = .ok next ↔
      world.storage.totalBillSupply token = world.storage.totalLocked token ∧
      (∀ owner, owner = buyerOwner ∨ owner = agentOwner →
        world.storage.freeBalance owner + world.storage.boundBalance owner < wordSize ∧
        world.storage.freeBalance owner + world.storage.boundBalance owner =
          world.storage.totalMintedByAddr owner) ∧
      next = world.emit (.invariantChecked token (world.storage.totalBillSupply token)
        (world.storage.totalLocked token)) := by
  simp only [checkPayout, bind_eq_ok, checkInvariant_eq_ok, checkPerAddressInvariant_eq_ok,
    Except.ok.injEq]
  constructor
  · rintro ⟨_, ⟨supply, rfl⟩, _, buyer, _, agent, rfl⟩
    refine ⟨supply, ?_, rfl⟩
    rintro owner (rfl | rfl)
    · exact buyer
    · exact agent
  · rintro ⟨supply, owners, rfl⟩
    exact ⟨_, ⟨supply, rfl⟩, (), owners _ (.inl rfl), (), owners _ (.inr rfl), rfl⟩

/-! ## The economy fee -/

/-- The most that can be collected on a quote for `amount`. -/
def feeOf (quoted amount : Nat) : Nat := min (min quoted amount) (amount * maxFeeBps / 10000)

theorem feeOf_le (quoted amount : Nat) : feeOf quoted amount ≤ amount * 1000 / 10000 :=
  Nat.min_le_right _ _

/-- The fee and the calls by which it is collected: none, or one approval of the bridge. -/
inductive FeeCollected (ext : Externals) (bridge token developer : Address) (amount : Nat) :
    Nat → List TokenCall → Prop
  | none : FeeCollected ext bridge token developer amount 0 []
  | approved (quoted : Nat) : bridge ≠ 0 → ext.quoteFee developer amount = some quoted →
      FeeCollected ext bridge token developer amount (feeOf quoted amount)
        [.allow token bridge (feeOf quoted amount)]

theorem FeeCollected.le {ext : Externals} {bridge token developer : Address} {amount fee : Nat}
    {calls : List TokenCall} (collected : FeeCollected ext bridge token developer amount fee calls) :
    fee ≤ amount * 1000 / 10000 := by
  cases collected with
  | none => exact Nat.zero_le _
  | approved quoted => exact feeOf_le quoted amount

section Routines

variable {deployment : Deployment} {ext : Externals} {world next : World} {ext : Externals}

theorem collectEconomyFee_ok {bindingId amount fee : Nat} {token developer : Address}
    (ran : collectEconomyFee deployment ext world bindingId token developer amount =
      .ok (fee, next)) :
    ∃ calls, FeeCollected ext world.storage.config.feeBridge token developer amount fee calls ∧
      Aftermath deployment ext.reentries world calls next := by
  simp only [collectEconomyFee] at ran
  by_cases idle : world.storage.config.feeBridge = 0 ∨ amount = 0
  · rw [if_pos idle] at ran
    cases ran
    exact ⟨[], .none, .refl⟩
  · rw [if_neg idle] at ran
    have bridge : world.storage.config.feeBridge ≠ 0 := fun unset => idle (.inl unset)
    by_cases unquoted : (ext.quoteFee developer amount).getD 0 = 0
    · rw [if_pos unquoted] at ran
      simp only [Except.ok.injEq, Prod.mk.injEq] at ran
      obtain ⟨rfl, rfl⟩ := ran
      refine ⟨[], .none, ?_⟩
      split
      · exact .reenter _ fun _ member => member
      · exact .refl
    · rw [if_neg unquoted] at ran
      cases quote : ext.quoteFee developer amount with
      | none => simp [quote] at unquoted
      | some quoted =>
          simp only [quote, Option.getD_some, checkedMul_bind_eq_ok, require_bind_eq_ok,
            Except.ok.injEq, Prod.mk.injEq] at ran
          obtain ⟨-, -, -, feeEq, rfl⟩ := ran
          have fee_eq : fee = feeOf quoted amount := by
            rw [← feeEq]
            unfold feeOf
            split <;> split <;> omega
          rw [feeEq, fee_eq]
          refine ⟨_, .approved quoted bridge quote, ?_⟩
          have announced : Aftermath deployment ext.reentries world []
              (if amount * maxFeeBps / 10000 < (if amount < quoted then amount else quoted) then
                world.emit (.feeCappedToHardCeiling bindingId
                  (if amount < quoted then amount else quoted) (amount * maxFeeBps / 10000))
              else world) := by
            by_cases capped : amount * maxFeeBps / 10000 <
                (if amount < quoted then amount else quoted)
            · rw [if_pos capped]; exact Aftermath.refl.emit _
            · rw [if_neg capped]; exact .refl
          exact (announced.trans (.approve token _ _)).trans (.reenter _ fun _ member => member)

/-! ## The routines -/

/-- What becomes of a binding: the pool to the agent, each bill back, or a split. -/
inductive Payout where
  | settle (proofHash : Bytes32)
  | refund
  | split (buyerShareBps : Nat)
  deriving DecidableEq

def Payout.mark (b : Binding) : Payout → Binding
  | .settle proofHash => { b with state := .settled, proofHash := proofHash }
  | .refund => { b with state := .refunded }
  | .split _ => { b with state := .settled }

/-- The storage once a binding is paid out. -/
def Storage.close (storage : Storage) (bindingId : Nat) (payout : Payout) : Storage :=
  (storage.setBinding bindingId (payout.mark (storage.bindings bindingId))).retire
    (storage.bindings bindingId)

/-- The buyer's part of a pool split by basis points. -/
def buyerShare (pool buyerShareBps : Nat) : Nat := pool * buyerShareBps / 10000

/-- Whose volume the fee is recorded for. -/
def developerOf (config : Config) (bindingId : Nat) (agentBill : BillToken) : Address :=
  if config.bindingDeveloper bindingId = 0 then agentBill.owner else config.bindingDeveloper bindingId

/-- The calls a payout makes on the token of the binding. -/
inductive Disbursed (ext : Externals) (config : Config) (bindingId : Nat)
    (buyerBill agentBill : BillToken) : Payout → List TokenCall → Prop
  | settle (proofHash : Bytes32) (fee : Nat) (calls : List TokenCall) :
      FeeCollected ext config.feeBridge buyerBill.token
        (developerOf config bindingId agentBill)
        (buyerBill.amount + agentBill.amount) fee calls →
      Disbursed ext config bindingId buyerBill agentBill (.settle proofHash)
        (calls ++ payCalls buyerBill.token agentBill.owner
          (buyerBill.amount + agentBill.amount - fee))
  | refund : Disbursed ext config bindingId buyerBill agentBill .refund
      [.pay buyerBill.token buyerBill.owner buyerBill.amount,
        .pay buyerBill.token agentBill.owner agentBill.amount]
  | split (buyerShareBps : Nat) :
      buyerShare (buyerBill.amount + agentBill.amount) buyerShareBps ≤
        buyerBill.amount + agentBill.amount →
      Disbursed ext config bindingId buyerBill agentBill (.split buyerShareBps)
        (payCalls buyerBill.token buyerBill.owner
            (buyerShare (buyerBill.amount + agentBill.amount) buyerShareBps) ++
          payCalls buyerBill.token agentBill.owner (buyerBill.amount + agentBill.amount -
            buyerShare (buyerBill.amount + agentBill.amount) buyerShareBps))

/-- How each payout divides the pool. -/
def Payout.Parts (ext : Externals) (config : Config) (bindingId : Nat)
    (buyerBill agentBill : BillToken) (fee buyerPart agentPart : Nat) : Payout → Prop
  | .settle _ => buyerPart = 0 ∧ (fee = 0 ∨ config.feeBridge ≠ 0 ∧ ∃ quoted,
      ext.quoteFee (developerOf config bindingId agentBill)
        (buyerBill.amount + agentBill.amount) = some quoted ∧
      fee = feeOf quoted (buyerBill.amount + agentBill.amount))
  | .refund => fee = 0 ∧ buyerPart = buyerBill.amount ∧ agentPart = agentBill.amount
  | .split buyerShareBps => fee = 0 ∧
      buyerPart = buyerShare (buyerBill.amount + agentBill.amount) buyerShareBps

/-- The three parts of the pool that the calls of a payout hand out. -/
structure Shared (ext : Externals) (config : Config) (bindingId : Nat)
    (buyerBill agentBill : BillToken) (payout : Payout) (calls : List TokenCall)
    (fee buyerPart agentPart : Nat) : Prop where
  sum_eq : fee + buyerPart + agentPart = buyerBill.amount + agentBill.amount
  fee_le : fee ≤ (buyerBill.amount + agentBill.amount) * 1000 / 10000
  parts : payout.Parts ext config bindingId buyerBill agentBill fee buyerPart agentPart
  total_eq : ∀ aspect : TokenCall → Nat,
    (∀ token account, aspect (.pay token account 0) = 0 ∧ aspect (.allow token account 0) = 0) →
    Erc20.total aspect calls = aspect (.allow buyerBill.token config.feeBridge fee) +
      aspect (.pay buyerBill.token buyerBill.owner buyerPart) +
      aspect (.pay buyerBill.token agentBill.owner agentPart)
  only : ∀ call ∈ calls, call = .allow buyerBill.token config.feeBridge fee ∨
    call = .pay buyerBill.token buyerBill.owner buyerPart ∨
    call = .pay buyerBill.token agentBill.owner agentPart

theorem total_payCalls {aspect : TokenCall → Nat} (token target : Address) (amount : Nat)
    (zero : aspect (.pay token target 0) = 0) :
    Erc20.total aspect (payCalls token target amount) = aspect (.pay token target amount) := by
  unfold payCalls
  by_cases positive : 0 < amount
  · rw [if_pos positive, Erc20.total_cons, Erc20.total_nil, Nat.add_zero]
  · have none : amount = 0 := by omega
    rw [if_neg positive, Erc20.total_nil, none, zero]

theorem mem_payCalls {token target : Address} {amount : Nat} {call : TokenCall}
    (member : call ∈ payCalls token target amount) : call = .pay token target amount := by
  unfold payCalls at member
  split at member
  · exact List.mem_singleton.mp member
  · cases member

theorem FeeCollected.total {bridge token developer : Address} {amount fee : Nat}
    {calls : List TokenCall} {aspect : TokenCall → Nat}
    (collected : FeeCollected ext bridge token developer amount fee calls)
    (zero : aspect (.allow token bridge 0) = 0) :
    Erc20.total aspect calls = aspect (.allow token bridge fee) := by
  cases collected with
  | none => rw [Erc20.total_nil, zero]
  | approved quoted => rw [Erc20.total_cons, Erc20.total_nil, Nat.add_zero]

theorem FeeCollected.only {bridge token developer : Address} {amount fee : Nat}
    {calls : List TokenCall} {call : TokenCall}
    (collected : FeeCollected ext bridge token developer amount fee calls) (member : call ∈ calls) :
    call = .allow token bridge fee := by
  cases collected with
  | none => cases member
  | approved quoted => exact List.mem_singleton.mp member

/-- Every payout hands the whole pool out: as a fee, to the buyer, and to the agent. -/
theorem Disbursed.shared {config : Config} {bindingId : Nat} {buyerBill agentBill : BillToken}
    {payout : Payout} {calls : List TokenCall}
    (disbursed : Disbursed ext config bindingId buyerBill agentBill payout calls) :
    ∃ fee buyerPart agentPart, Shared ext config bindingId buyerBill agentBill payout calls
      fee buyerPart agentPart := by
  cases disbursed with
  | settle proofHash fee feeCalls collected =>
      have capped := collected.le
      refine ⟨fee, 0, buyerBill.amount + agentBill.amount - fee, ?_, capped, ⟨rfl, ?_⟩, ?_, ?_⟩
      · omega
      · cases collected with
        | none => exact .inl rfl
        | approved quoted bridge quote => exact .inr ⟨bridge, quoted, quote, rfl⟩
      · intro aspect zero
        rw [Erc20.total_append, collected.total (zero _ _).2, total_payCalls _ _ _ (zero _ _).1,
          (zero _ _).1, Nat.add_zero]
      · intro call member
        rcases List.mem_append.mp member with member | member
        · exact .inl (collected.only member)
        · exact .inr (.inr (mem_payCalls member))
  | refund =>
      refine ⟨0, buyerBill.amount, agentBill.amount, by omega, Nat.zero_le _, ⟨rfl, rfl, rfl⟩, ?_, ?_⟩
      · intro aspect zero
        simp [(zero _ _).2]
      · intro call member
        exact .inr (by simpa using member)
  | split buyerShareBps within =>
      refine ⟨0, buyerShare (buyerBill.amount + agentBill.amount) buyerShareBps,
        buyerBill.amount + agentBill.amount -
          buyerShare (buyerBill.amount + agentBill.amount) buyerShareBps,
        by omega, Nat.zero_le _, ⟨rfl, rfl⟩, ?_, ?_⟩
      · intro aspect zero
        rw [Erc20.total_append, total_payCalls _ _ _ (zero _ _).1, total_payCalls _ _ _ (zero _ _).1,
          (zero _ _).2, Nat.zero_add]
      · intro call member
        rcases List.mem_append.mp member with member | member
        · exact .inr (.inl (mem_payCalls member))
        · exact .inr (.inr (mem_payCalls member))

/-- What every payout routine does when it succeeds. -/
structure PaidOut (deployment : Deployment) (ext : Externals) (world : World) (bindingId : Nat)
    (payout : Payout) (calls : List TokenCall) (next : World) : Prop where
  retirable : world.storage.Retirable
    (world.storage.bills (world.storage.bindings bindingId).buyerBillId)
    (world.storage.bills (world.storage.bindings bindingId).agentBillId)
  disbursed : Disbursed ext world.storage.config bindingId
    (world.storage.bills (world.storage.bindings bindingId).buyerBillId)
    (world.storage.bills (world.storage.bindings bindingId).agentBillId) payout calls
  aftermath : Aftermath deployment ext.reentries
    { world with storage := world.storage.close bindingId payout } calls next

/-- The payout routines emit the events of the burned bills before anything else. -/
theorem Aftermath.closed (reentries : List Reentry) (bindingId : Nat) (payout : Payout)
    (reason : String) :
    let b := world.storage.bindings bindingId
    let marked := world.storage.setBinding bindingId (payout.mark b)
    Aftermath deployment reentries
      { world with storage := world.storage.close bindingId payout } []
      { World.burned { world with storage := marked } b reason with storage := marked.retire b } :=
  ⟨.silent rfl rfl rfl, rfl, .refl⟩

theorem executeSettle_ok {bindingId : Nat} {proofHash : Bytes32}
    (ran : executeSettle deployment ext world bindingId proofHash = .ok next) :
    ∃ calls, PaidOut deployment ext world bindingId (.settle proofHash) calls next := by
  simp only [executeSettle, bind_eq_ok, retireBills_eq_ok, checkedAdd_eq_ok, checkPayout_eq_ok,
    Except.ok.injEq] at ran
  obtain ⟨-, -, _, ⟨retirable, rfl⟩, _, ⟨-, rfl⟩, ⟨fee, charged⟩, collected, paid, transferred,
    _, ⟨-, -, rfl⟩, rfl⟩ := ran
  obtain ⟨feeCalls, feeCollected, after⟩ := collectEconomyFee_ok collected
  have seller : ∀ pool, (if fee < pool then pool - fee else 0) = pool - fee := by
    intro pool
    split <;> omega
  rw [seller] at transferred
  have calls := (Aftermath.closed ext.reentries bindingId (.settle proofHash) "settled").trans (after.trans
    (Aftermath.transferPositive transferred))
  exact ⟨_, retirable_setBinding.mp retirable, .settle proofHash fee feeCalls feeCollected,
    ((calls.emit _).emit _).emit _⟩

theorem executeRefund_ok {bindingId : Nat}
    (ran : executeRefund deployment ext world bindingId = .ok next) :
    ∃ calls, PaidOut deployment ext world bindingId .refund calls next := by
  simp only [executeRefund, bind_eq_ok, retireBills_eq_ok, checkPayout_eq_ok] at ran
  obtain ⟨_, ⟨retirable, rfl⟩, first, toBuyer, second, toAgent, -, -, rfl⟩ := ran
  have calls := (Aftermath.closed ext.reentries bindingId .refund "refunded").trans
    ((Aftermath.transfer toBuyer).trans (Aftermath.transfer toAgent))
  exact ⟨_, retirable_setBinding.mp retirable, .refund, calls.emit _⟩

theorem executeSplit_ok {bindingId buyerShareBps : Nat}
    (ran : executeSplit deployment ext world bindingId buyerShareBps = .ok next) :
    ∃ calls, PaidOut deployment ext world bindingId (.split buyerShareBps) calls next := by
  simp only [executeSplit, bind_eq_ok, retireBills_eq_ok, checkedAdd_eq_ok, checkedMul_eq_ok,
    checkedSub_eq_ok, checkPayout_eq_ok, Except.ok.injEq] at ran
  obtain ⟨-, -, _, ⟨-, rfl⟩, _, ⟨-, rfl⟩, _, ⟨within, rfl⟩, _, ⟨retirable, rfl⟩, first, toBuyer,
    second, toAgent, _, ⟨-, -, rfl⟩, rfl⟩ := ran
  have calls := (Aftermath.closed ext.reentries bindingId (.split buyerShareBps) "dispute-resolved").trans
    ((Aftermath.transferPositive toBuyer).trans (Aftermath.transferPositive toAgent))
  exact ⟨_, retirable_setBinding.mp retirable, .split buyerShareBps within,
    ((calls.emit _).emit _).emit _⟩

end Routines

end TrustChain.Bilateral
