import TrustChain.Bilateral.System
import TrustChain.Bilateral.Payouts

/-!
# What a transaction does

`Change` says once, for every external function, what a successful call required and
what it left in storage, and `Effect` adds what happened around the storage. Every
invariant of the contract is derived from them, and none unfolds an entry point again.
-/

namespace TrustChain.Bilateral

open Library Function Storage

namespace Storage

/-- The storage after `lock`. -/
def issue (storage : Storage) (owner token : Address) (amount timestamp : Nat) : Storage :=
  let billId := storage.billCounter + 1
  { storage with
    billCounter := billId
    bills := update storage.bills billId
      { billId, owner, token, amount, state := .minted, mintedAt := timestamp }
    ownerBills := update storage.ownerBills owner (storage.ownerBills owner ++ [billId])
    totalLocked := credit storage.totalLocked token amount
    totalBillSupply := credit storage.totalBillSupply token amount
    freeBalance := credit storage.freeBalance owner amount
    totalMintedByAddr := credit storage.totalMintedByAddr owner amount
    totalLockedByAddr := credit storage.totalLockedByAddr owner amount }

/-- What a caller of a bind variant decides. -/
structure Terms where
  buyerBillId : Nat
  agentBillId : Nat
  scopeHash : Bytes32
  task : Option Bytes32
  intent : Option IntentPackage

/-- The storage after a bind variant; the binding starts in `state`. -/
def freeze (storage : Storage) (terms : Terms) (state : BindingState) (timestamp : Nat) :
    Storage :=
  let buyerBill := storage.bills terms.buyerBillId
  let agentBill := storage.bills terms.agentBillId
  let bindingId := storage.bindingCounter + 1
  { storage with
    bills := update (update storage.bills terms.buyerBillId { buyerBill with state := .bound })
      terms.agentBillId { agentBill with state := .bound }
    bindingCounter := bindingId
    bindings := update storage.bindings bindingId
      { bindingId
        buyerBillId := terms.buyerBillId
        agentBillId := terms.agentBillId
        scopeHash := terms.scopeHash
        state
        createdAt := timestamp
        settleAfter := timestamp + storage.config.disputeWindowSeconds }
    intentPackages := writeSome storage.intentPackages bindingId terms.intent
    requiresAttestation := writeSome storage.requiresAttestation bindingId
      (terms.task.map fun _ => true)
    bindingTaskId := writeSome storage.bindingTaskId bindingId terms.task
    pendingBatchAmount := credit storage.pendingBatchAmount buyerBill.token
      (buyerBill.amount + agentBill.amount)
    freeBalance := debit (debit storage.freeBalance buyerBill.owner buyerBill.amount)
      agentBill.owner agentBill.amount
    boundBalance := credit (credit storage.boundBalance buyerBill.owner buyerBill.amount)
      agentBill.owner agentBill.amount }

/-- The storage after `unlock`. -/
def release (storage : Storage) (billId : Nat) : Storage :=
  let bill := storage.bills billId
  { storage with
    bills := update storage.bills billId { bill with state := .burned }
    freeBalance := debit storage.freeBalance bill.owner bill.amount
    totalLockedByAddr := debit storage.totalLockedByAddr bill.owner bill.amount
    totalMintedByAddr := debit storage.totalMintedByAddr bill.owner bill.amount
    totalBillSupply := debit storage.totalBillSupply bill.token bill.amount
    totalLocked := debit storage.totalLocked bill.token bill.amount }

/-- The arbitration record, if there is one, marked as resolved. -/
def resolve (storage : Storage) (bindingId : Nat) : Storage :=
  if (storage.arbitrations bindingId).startedAt ≠ 0 then
    storage.setArbitration bindingId { storage.arbitrations bindingId with resolved := true }
  else storage

/-- The storage just before a payout: leaving a dispute resolves its arbitration. -/
def conclude (storage : Storage) (bindingId : Nat) : Storage :=
  if (storage.bindings bindingId).state = .disputed then storage.resolve bindingId else storage

/-- The identifiers handed out. -/
def Issued (storage : Storage) (billId : Nat) : Prop := (storage.bills billId).mintedAt ≠ 0

def Opened (storage : Storage) (bindingId : Nat) : Prop :=
  (storage.bindings bindingId).createdAt ≠ 0

instance (storage : Storage) (billId : Nat) : Decidable (storage.Issued billId) :=
  inferInstanceAs (Decidable (_ ≠ _))

instance (storage : Storage) (bindingId : Nat) : Decidable (storage.Opened bindingId) :=
  inferInstanceAs (Decidable (_ ≠ _))

end Storage

/-- The bind variants, each with the terms it opens a binding on. -/
inductive Call.Binds (deployment : Deployment) : Call → Terms → Prop
  | bind (buyerBillId agentBillId : Nat) (scopeHash : Bytes32) :
      Call.Binds deployment (.bind buyerBillId agentBillId scopeHash)
        ⟨buyerBillId, agentBillId, scopeHash, none, none⟩
  | bindWithAttestation (buyerBillId agentBillId : Nat) (scopeHash taskId : Bytes32) :
      taskId ≠ 0 →
      Call.Binds deployment (.bindWithAttestation buyerBillId agentBillId scopeHash taskId)
        ⟨buyerBillId, agentBillId, scopeHash, some taskId, none⟩
  | bindWithIntent (intent : IntentPackage) (buyerBillId agentBillId : Nat) :
      Call.Binds deployment (.bindWithIntent intent buyerBillId agentBillId)
        ⟨buyerBillId, agentBillId, deployment.hashIntent intent,
          if intent.verifier ≠ 0 then some (deployment.hashIntent intent) else none, some intent⟩

/-- The checks on two bills that are bound by `sender`. -/
structure Bindable (storage : Storage) (sender : Address) (terms : Terms) : Prop where
  buyer_issued : storage.Issued terms.buyerBillId
  agent_issued : storage.Issued terms.agentBillId
  buyer_owner : (storage.bills terms.buyerBillId).owner = sender
  buyer_minted : (storage.bills terms.buyerBillId).state = .minted
  agent_minted : (storage.bills terms.agentBillId).state = .minted
  same_token : (storage.bills terms.buyerBillId).token = (storage.bills terms.agentBillId).token
  owners_ne : (storage.bills terms.buyerBillId).owner ≠ (storage.bills terms.agentBillId).owner

/-- The payout `autoResolveArbitration` chooses by the evidence on record. -/
def autoPayout (proofHash : Bytes32) (arb : ArbitrationRecord) : Payout :=
  match decide (arb.buyerSubmittedAt ≠ 0), decide (arb.agentSubmittedAt ≠ 0) with
  | false, true => .settle proofHash
  | true, false => .split 10000
  | false, false => .refund
  | true, true => .split 5000

section Changes

variable (deployment : Deployment) (ext : Externals) (msg : Message deployment) (storage : Storage)

/-- Who may have a binding paid out, when, and how. -/
inductive Entitled : Call → Nat → Payout → Prop
  | attested (bindingId : Nat) (proofHash : Bytes32) :
      (storage.bindings bindingId).state = .active ∨
        (storage.bindings bindingId).state = .pending →
      storage.requiresAttestation bindingId = true →
      msg.sender = storage.config.attestationGateway →
      Entitled (.settle bindingId proofHash) bindingId (.settle proofHash)
  | finalized (bindingId : Nat) :
      (storage.bindings bindingId).state = .finalizing →
      (storage.bindings bindingId).settleSubmittedAt + storage.config.disputeWindow ≤
        msg.timestamp →
      Entitled (.finalizeSettle bindingId) bindingId
        (.settle (storage.bindings bindingId).proofHash)
  | autoResolved (bindingId : Nat) :
      (storage.bindings bindingId).state = .disputed →
      (storage.arbitrations bindingId).startedAt ≠ 0 →
      (storage.arbitrations bindingId).resolved = false →
      (storage.arbitrations bindingId).startedAt + storage.config.evidenceWindow ≤
        msg.timestamp →
      Entitled (.autoResolveArbitration bindingId) bindingId
        (autoPayout (storage.bindings bindingId).proofHash (storage.arbitrations bindingId))
  | adminResolved (bindingId buyerShareBps : Nat) :
      msg.sender = deployment.admin →
      buyerShareBps ≤ 10000 →
      (storage.bindings bindingId).state = .disputed →
      Entitled (.resolveDispute bindingId buyerShareBps) bindingId (.split buyerShareBps)
  | timedOut (bindingId : Nat) :
      (storage.bindings bindingId).state = .active ∨
        (storage.bindings bindingId).state = .pending →
      (storage.bindings bindingId).createdAt + storage.config.settleTimeoutSeconds ≤
        msg.timestamp →
      msg.sender = (storage.bills (storage.bindings bindingId).buyerBillId).owner →
      Entitled (.refundOnTimeout bindingId) bindingId .refund

/-- What a successful call requires, the storage it leaves and the token calls it makes. -/
inductive Change : Call → Storage → List TokenCall → Prop
  | configured (setter : Setter) (config : Config) (event : Event) :
      runSetter deployment msg.sender storage setter = .ok (config, event) →
      Change (.setter setter) { storage with config := config } []
  | locked (token : Address) (amount : Nat) :
      amount ≠ 0 →
      storage.totalMintedByAddr msg.sender + amount < wordSize →
      Change (.lock token amount) (storage.issue msg.sender token amount msg.timestamp)
        [.pull token msg.sender amount]
  | bound (call : Call) (terms : Terms) (state : BindingState) :
      call.Binds deployment terms →
      Bindable storage msg.sender terms →
      state = .active ∨ state = .pending →
      storage.pendingBatchAmount (storage.bills terms.buyerBillId).token +
        ((storage.bills terms.buyerBillId).amount + (storage.bills terms.agentBillId).amount) <
          wordSize →
      Change call (storage.freeze terms state msg.timestamp) []
  | submitted (bindingId : Nat) (proofHash : Bytes32) :
      storage.Opened bindingId →
      (storage.bindings bindingId).state = .active ∨
        (storage.bindings bindingId).state = .pending →
      storage.requiresAttestation bindingId = false →
      msg.sender = (storage.bills (storage.bindings bindingId).buyerBillId).owner ∨
        msg.sender = (storage.bills (storage.bindings bindingId).agentBillId).owner →
      msg.timestamp + storage.config.disputeWindow < wordSize →
      Change (.settle bindingId proofHash)
        (storage.setBinding bindingId
          { storage.bindings bindingId with
            state := .finalizing
            proofHash := proofHash
            settleSubmittedAt := msg.timestamp }) []
  | disputed (bindingId : Nat) (evidenceHash : Bytes32) :
      storage.Opened bindingId →
      (storage.bindings bindingId).state = .finalizing →
      msg.timestamp < (storage.bindings bindingId).settleSubmittedAt +
        storage.config.disputeWindow →
      msg.sender = (storage.bills (storage.bindings bindingId).buyerBillId).owner →
      Change (.dispute bindingId evidenceHash)
        ((storage.setBinding bindingId
          { storage.bindings bindingId with
            state := .disputed
            disputedAt := msg.timestamp
            disputeInitiator := msg.sender }).setArbitration bindingId
          { buyerEvidenceHash := evidenceHash
            buyerSubmittedAt := msg.timestamp
            startedAt := msg.timestamp }) []
  | evidence (bindingId : Nat) (evidenceHash : Bytes32) (byBuyer : Bool) :
      storage.Opened bindingId →
      (storage.bindings bindingId).state = .disputed →
      (storage.arbitrations bindingId).startedAt ≠ 0 →
      (storage.arbitrations bindingId).resolved = false →
      msg.sender = (if byBuyer then (storage.bills (storage.bindings bindingId).buyerBillId).owner
        else (storage.bills (storage.bindings bindingId).agentBillId).owner) →
      Change (.submitArbitrationEvidence bindingId evidenceHash)
        (storage.setArbitration bindingId
          (if byBuyer then
            { storage.arbitrations bindingId with
              buyerEvidenceHash := evidenceHash
              buyerSubmittedAt := msg.timestamp }
          else
            { storage.arbitrations bindingId with
              agentEvidenceHash := evidenceHash
              agentSubmittedAt := msg.timestamp })) []
  | paid (call : Call) (bindingId : Nat) (payout : Payout) (calls : List TokenCall)
      (config : Config) :
      storage.Opened bindingId →
      Entitled deployment msg storage call bindingId payout →
      storage.Retirable (storage.bills (storage.bindings bindingId).buyerBillId)
        (storage.bills (storage.bindings bindingId).agentBillId) →
      Disbursed ext storage.config bindingId (storage.bills (storage.bindings bindingId).buyerBillId)
        (storage.bills (storage.bindings bindingId).agentBillId) payout calls →
      Reconfigured deployment ext.reentries ((storage.conclude bindingId).close bindingId payout)
        config →
      Change call { (storage.conclude bindingId).close bindingId payout with config := config }
        calls
  | released (billId : Nat) :
      storage.Issued billId →
      (storage.bills billId).owner = msg.sender →
      (storage.bills billId).state = .minted →
      Change (.unlock billId) (storage.release billId)
        [.pay (storage.bills billId).token msg.sender (storage.bills billId).amount]

/-- The change of a transaction, and its surroundings; the reentrancy flag ends lowered. -/
structure Effect (world : World) (call : Call) (calls : List TokenCall) (next : World) : Prop where
  change : Change deployment ext msg world.storage call next.storage calls
  around : Surroundings deployment world calls next
  flag : next.status = 1 ∨ next.status = world.status

end Changes

/-! ## Entry points -/

section EntryPoints

variable {deployment : Deployment} {ext : Externals} {msg : Message deployment} {world next : World}
  {bindingId : Nat}

theorem enter_eq_ok {entered : World} :
    world.enter = .ok entered ↔ world.status ≠ 2 ∧ entered = { world with status := 2 } := by
  simp only [World.enter, require_bind_eq_ok, Except.ok.injEq, eq_comm (a := entered)]

theorem requireBill_eq_ok {storage : Storage} {billId : Nat} {bill : BillToken} :
    storage.requireBill billId = .ok bill ↔
      storage.Issued billId ∧ bill = storage.bills billId := by
  simp only [Storage.requireBill, require_bind_eq_ok, Except.ok.injEq, eq_comm (a := bill),
    Storage.Issued]

theorem requireBinding_eq_ok {storage : Storage} {bindingId : Nat} {b : Binding} :
    storage.requireBinding bindingId = .ok b ↔
      storage.Opened bindingId ∧ b = storage.bindings bindingId := by
  simp only [Storage.requireBinding, require_bind_eq_ok, Except.ok.injEq, eq_comm (a := b),
    Storage.Opened]

theorem lock_effect {token : Address} {amount billId : Nat}
    (ran : lock deployment ext msg world token amount = .ok (billId, next)) :
    Effect deployment ext msg world (.lock token amount) [.pull token msg.sender amount] next := by
  simp only [lock, bind_eq_ok, enter_eq_ok, require_eq_ok, checkedCredit_eq_ok,
    checkInvariant_eq_ok, Except.ok.injEq, Prod.mk.injEq] at ran
  obtain ⟨_, ⟨-, rfl⟩, _, -, _, nonzero, _, -, pulled, transferred, rest⟩ := ran
  obtain ⟨sameStorage, around⟩ := transferFrom_ok msg.sender_ne_self transferred
  obtain ⟨storage, status, tokens, tokenCalls, events, now⟩ := pulled
  obtain rfl : storage = world.storage := sameStorage
  obtain ⟨_, ⟨-, rfl⟩, _, ⟨-, rfl⟩, _, ⟨-, rfl⟩, _, ⟨fits, rfl⟩, _, ⟨-, rfl⟩, _, ⟨-, rfl⟩, _, -,
    rfl, rfl⟩ := rest
  exact ⟨.locked token amount nonzero fits,
    ⟨around.tokenCalls_eq, around.interaction, around.now_eq⟩, .inl rfl⟩

theorem requireBindable_eq_ok (terms : Terms) {value : Unit} :
    requireBindable deployment msg world terms.buyerBillId terms.agentBillId = .ok value ↔
      Bindable world.storage msg.sender terms := by
  simp only [requireBindable, bind_eq_ok, requireBill_eq_ok, requireBillState, require_eq_ok]
  constructor
  · rintro ⟨_, ⟨buyerIssued, rfl⟩, _, ⟨agentIssued, rfl⟩, _, owner, _, buyerMinted, _, agentMinted,
      _, token, different⟩
    exact ⟨buyerIssued, agentIssued, owner, buyerMinted, agentMinted, token, different⟩
  · rintro ⟨buyerIssued, agentIssued, owner, buyerMinted, agentMinted, token, different⟩
    exact ⟨_, ⟨buyerIssued, rfl⟩, _, ⟨agentIssued, rfl⟩, (), owner, (), buyerMinted, (), agentMinted,
      (), token, different⟩

theorem openBinding_ok (terms : Terms) {bindingId : Nat}
    (ran : openBinding deployment msg world terms.buyerBillId terms.agentBillId terms.scopeHash
      terms.task terms.intent = .ok (bindingId, next)) :
    ∃ state, (state = .active ∨ state = .pending) ∧
      world.storage.pendingBatchAmount (world.storage.bills terms.buyerBillId).token +
        ((world.storage.bills terms.buyerBillId).amount +
          (world.storage.bills terms.agentBillId).amount) < wordSize ∧
      next.storage = world.storage.freeze terms state msg.timestamp ∧
      Surroundings deployment world [] next := by
  refine ⟨(next.storage.bindings (world.storage.bindingCounter + 1)).state, ?_⟩
  simp only [openBinding, Storage.moveFreeToBound, bind_eq_ok, require_eq_ok, checkedAdd_eq_ok,
    checkedCredit_eq_ok, checkedDebit_eq_ok, Except.ok.injEq, Prod.mk.injEq] at ran
  obtain ⟨_, ⟨-, rfl⟩, _, ⟨-, rfl⟩, _, ⟨fits, rfl⟩, _, ⟨_, -, _, ⟨-, rfl⟩, _, ⟨-, rfl⟩, rfl⟩,
    _, ⟨_, -, _, ⟨-, rfl⟩, _, ⟨-, rfl⟩, rfl⟩, -, rfl⟩ := ran
  refine ⟨?_, fits, ?_, .silent rfl rfl rfl⟩
  · simp only [World.emit, Storage.setBinding, update_self]
    split
    · exact .inr rfl
    · exact .inl rfl
  · simp only [World.emit, Storage.setBinding, Storage.freeze, update_self, update_idem]

variable (ext) in
/-- The part common to the bind variants. -/
theorem bound_effect {call : Call} {terms : Terms} (binds : call.Binds deployment terms)
    (bindable : requireBindable deployment msg world terms.buyerBillId terms.agentBillId = .ok ())
    (ran : openBinding deployment msg world terms.buyerBillId terms.agentBillId terms.scopeHash
      terms.task terms.intent = .ok (bindingId, next)) :
    Change deployment ext msg world.storage call next.storage [] ∧
      Surroundings deployment world [] next := by
  obtain ⟨state, started, fits, frozen, around⟩ := openBinding_ok terms ran
  refine ⟨?_, around⟩
  rw [frozen]
  exact .bound call terms state binds ((requireBindable_eq_ok terms).mp bindable) started fits

theorem bind_effect {buyerBillId agentBillId bindingId : Nat} {scopeHash : Bytes32}
    (ran : bind deployment msg world buyerBillId agentBillId scopeHash = .ok (bindingId, next)) :
    Effect deployment ext msg world (.bind buyerBillId agentBillId scopeHash) [] next := by
  simp only [Bilateral.bind, bind_eq_ok, enter_eq_ok, Except.ok.injEq, Prod.mk.injEq] at ran
  obtain ⟨_, ⟨-, rfl⟩, _, bindable, ⟨_, opened⟩, opening, rfl, rfl⟩ := ran
  obtain ⟨change, around⟩ :=
    bound_effect ext (.bind buyerBillId agentBillId scopeHash) bindable opening
  exact ⟨change, ⟨around.tokenCalls_eq, around.interaction, around.now_eq⟩, .inl rfl⟩

theorem bindWithAttestation_effect {buyerBillId agentBillId bindingId : Nat}
    {scopeHash taskId : Bytes32}
    (ran : bindWithAttestation deployment msg world buyerBillId agentBillId scopeHash taskId =
      .ok (bindingId, next)) :
    Effect deployment ext msg world
      (.bindWithAttestation buyerBillId agentBillId scopeHash taskId) [] next := by
  simp only [bindWithAttestation, bind_eq_ok, enter_eq_ok, require_eq_ok, Except.ok.injEq,
    Prod.mk.injEq] at ran
  obtain ⟨_, ⟨-, rfl⟩, _, -, _, taskId_ne, _, bindable, ⟨_, opened⟩, opening, rfl, rfl⟩ := ran
  obtain ⟨change, around⟩ := bound_effect ext
    (.bindWithAttestation buyerBillId agentBillId scopeHash taskId taskId_ne) bindable opening
  exact ⟨change, ⟨around.tokenCalls_eq, around.interaction, around.now_eq⟩, .inl rfl⟩

theorem bindWithIntent_effect {intent : IntentPackage} {buyerBillId agentBillId bindingId : Nat}
    (ran : bindWithIntent deployment msg world intent buyerBillId agentBillId =
      .ok (bindingId, next)) :
    Effect deployment ext msg world (.bindWithIntent intent buyerBillId agentBillId) [] next := by
  simp only [bindWithIntent, bind_eq_ok, enter_eq_ok, require_eq_ok, checkedMul_eq_ok,
    Except.ok.injEq, Prod.mk.injEq] at ran
  obtain ⟨_, ⟨-, rfl⟩, _, bindable, _, -, _, -, _, ⟨-, rfl⟩, _, -, _, -, _, -, ⟨_, opened⟩, opening,
    rfl, rfl⟩ := ran
  obtain ⟨change, around⟩ := bound_effect ext
    (.bindWithIntent intent buyerBillId agentBillId) bindable opening
  exact ⟨change, ⟨around.tokenCalls_eq, around.interaction, around.now_eq⟩, .inl rfl⟩

/-- Concluding a dispute writes its arbitration record alone. -/
theorem conclude_eq (storage : Storage) (bindingId : Nat) :
    ∃ arbitrations, storage.conclude bindingId = { storage with arbitrations := arbitrations } := by
  unfold Storage.conclude Storage.resolve
  split
  · split
    · exact ⟨_, rfl⟩
    · exact ⟨_, rfl⟩
  · exact ⟨_, rfl⟩

/-- The part common to the calls that pay a binding out. -/
theorem paid_effect {call : Call} {payout : Payout} {calls : List TokenCall} {prepared : World}
    (opened : world.storage.Opened bindingId)
    (entitled : Entitled deployment msg world.storage call bindingId payout)
    (paid : PaidOut deployment ext prepared bindingId payout calls next)
    (concluded : prepared.storage = world.storage.conclude bindingId)
    (before : Surroundings deployment world [] prepared) :
    Effect deployment ext msg world call calls next.leave := by
  obtain ⟨retirable, disbursed, after⟩ := paid
  have around : Surroundings deployment world calls next.leave := by
    constructor
    · change next.tokenCalls = _
      rw [after.tokenCalls_eq, before.tokenCalls_eq, List.append_nil]
    · exact before.interaction.append after.interaction
    · exact after.now_eq.trans before.now_eq
  refine ⟨?_, around, .inl rfl⟩
  obtain ⟨arbitrations, same⟩ := conclude_eq world.storage bindingId
  have reconfigured := after.reconfigured
  rw [show next.leave.storage = _ from after.storage_eq]
  rw [concluded] at retirable disbursed reconfigured ⊢
  rw [same] at retirable disbursed
  obtain ⟨bound, minted, lockedBy, supply, locked, pool, pending⟩ := retirable
  exact .paid call bindingId payout calls _ opened entitled
    ⟨bound, minted, lockedBy, supply, locked, pool, pending⟩ disbursed reconfigured

theorem conclude_of_ne {storage : Storage}
    (undisputed : (storage.bindings bindingId).state ≠ .disputed) :
    storage.conclude bindingId = storage := if_neg undisputed

theorem conclude_of_disputed {storage : Storage}
    (disputed : (storage.bindings bindingId).state = .disputed) :
    storage.conclude bindingId = storage.resolve bindingId := if_pos disputed

theorem settle_effect {proofHash : Bytes32}
    (ran : settle deployment ext msg world bindingId proofHash = .ok next) :
    ∃ calls, Effect deployment ext msg world (.settle bindingId proofHash) calls next := by
  simp only [settle, bind_eq_ok, enter_eq_ok, requireBinding_eq_ok, require_eq_ok] at ran
  obtain ⟨_, ⟨-, rfl⟩, _, ⟨opened, rfl⟩, _, started, rest⟩ := ran
  split at rest
  · next attested =>
      simp only [bind_eq_ok, require_eq_ok, Except.ok.injEq] at rest
      obtain ⟨_, gateway, settled, ran, rfl⟩ := rest
      obtain ⟨calls, paid⟩ := executeSettle_ok ran
      have undisputed : (world.storage.bindings bindingId).state ≠ .disputed := by
        rcases started with active | pending
        · rw [active]; decide
        · rw [pending]; decide
      exact ⟨calls, paid_effect opened (.attested bindingId proofHash started attested gateway)
        paid (conclude_of_ne undisputed).symm (.silent rfl rfl rfl)⟩
  · next unattested =>
      simp only [bind_eq_ok, require_eq_ok, checkedAdd_eq_ok, Except.ok.injEq] at rest
      obtain ⟨_, party, _, -, _, ⟨fits, rfl⟩, rfl⟩ := rest
      refine ⟨[], ?_, .silent rfl rfl rfl, .inl rfl⟩
      exact .submitted bindingId proofHash opened started (by simpa using unattested) party fits

theorem requireFinalizable_eq_ok {b : Binding} :
    requireFinalizable deployment msg world bindingId = .ok b ↔
      world.storage.Opened bindingId ∧ (world.storage.bindings bindingId).state = .finalizing ∧
      (world.storage.bindings bindingId).settleSubmittedAt + world.storage.config.disputeWindow <
        wordSize ∧
      (world.storage.bindings bindingId).settleSubmittedAt + world.storage.config.disputeWindow ≤
        msg.timestamp ∧
      b = world.storage.bindings bindingId := by
  simp only [requireFinalizable, bind_eq_ok, requireBinding_eq_ok, require_eq_ok, checkedAdd_eq_ok,
    Except.ok.injEq]
  constructor
  · rintro ⟨_, ⟨opened, rfl⟩, _, finalizing, _, ⟨fits, rfl⟩, _, closed, rfl⟩
    exact ⟨opened, finalizing, fits, closed, rfl⟩
  · rintro ⟨opened, finalizing, fits, closed, rfl⟩
    exact ⟨_, ⟨opened, rfl⟩, (), finalizing, _, ⟨fits, rfl⟩, (), closed, rfl⟩

theorem finalizeSettle_effect (ran : finalizeSettle deployment ext msg world bindingId = .ok next) :
    ∃ calls, Effect deployment ext msg world (.finalizeSettle bindingId) calls next := by
  simp only [finalizeSettle, bind_eq_ok, enter_eq_ok, requireFinalizable_eq_ok, Except.ok.injEq] at ran
  obtain ⟨_, ⟨-, rfl⟩, _, ⟨opened, finalizing, -, closed, rfl⟩, settled, ran, rfl⟩ := ran
  obtain ⟨calls, paid⟩ := executeSettle_ok ran
  have undisputed : (world.storage.bindings bindingId).state ≠ .disputed := by
    rw [finalizing]; decide
  exact ⟨calls, paid_effect opened (.finalized bindingId finalizing closed) paid
    (conclude_of_ne undisputed).symm (.silent rfl rfl rfl)⟩

theorem dispute_effect {evidenceHash : Bytes32}
    (ran : dispute deployment msg world bindingId evidenceHash = .ok next) :
    Effect deployment ext msg world (.dispute bindingId evidenceHash) [] next := by
  simp only [dispute, bind_eq_ok, enter_eq_ok, requireBinding_eq_ok, require_eq_ok,
    checkedAdd_eq_ok, Except.ok.injEq] at ran
  obtain ⟨_, ⟨-, rfl⟩, _, ⟨opened, rfl⟩, _, finalizing, _, ⟨-, rfl⟩, _, early, _, buyer, rfl⟩ := ran
  refine ⟨?_, .silent rfl rfl rfl, .inl rfl⟩
  exact .disputed bindingId evidenceHash opened finalizing early buyer

theorem submitArbitrationEvidence_effect {evidenceHash : Bytes32}
    (ran : submitArbitrationEvidence deployment msg world bindingId evidenceHash = .ok next) :
    Effect deployment ext msg world (.submitArbitrationEvidence bindingId evidenceHash) [] next := by
  simp only [submitArbitrationEvidence, bind_eq_ok, enter_eq_ok, requireBinding_eq_ok,
    require_eq_ok, checkedAdd_eq_ok, Except.ok.injEq] at ran
  obtain ⟨_, ⟨-, rfl⟩, _, ⟨opened, rfl⟩, _, disputed, _, started, _, unresolved, _, ⟨-, rfl⟩, _, -,
    _, party, rfl⟩ := ran
  refine ⟨?_, .silent rfl rfl rfl, .inl rfl⟩
  by_cases buyer :
      msg.sender = (world.storage.bills (world.storage.bindings bindingId).buyerBillId).owner
  · simp only [if_pos buyer]
    exact .evidence bindingId evidenceHash true opened disputed started unresolved buyer
  · simp only [if_neg buyer]
    exact .evidence bindingId evidenceHash false opened disputed started unresolved
      (party.resolve_left buyer)

theorem autoOutcome_ok {proofHash : Bytes32} {arb : ArbitrationRecord}
    (ran : autoOutcome deployment ext world bindingId proofHash
      (decide (arb.buyerSubmittedAt ≠ 0)) (decide (arb.agentSubmittedAt ≠ 0)) = .ok next) :
    ∃ event calls, PaidOut deployment ext (world.emit event) bindingId (autoPayout proofHash arb)
      calls next := by
  unfold autoOutcome at ran
  unfold autoPayout
  cases buyer : decide (arb.buyerSubmittedAt ≠ 0) <;>
    cases agent : decide (arb.agentSubmittedAt ≠ 0) <;>
    simp only [buyer, agent, Bool.not_true, Bool.not_false, Bool.and_true, Bool.and_false,
      Bool.false_eq_true, if_true, if_false] at ran
  · exact ⟨_, executeRefund_ok ran⟩
  · exact ⟨_, executeSettle_ok ran⟩
  · exact ⟨_, executeSplit_ok ran⟩
  · exact ⟨_, executeSplit_ok ran⟩

theorem autoResolveArbitration_effect
    (ran : autoResolveArbitration deployment ext msg world bindingId = .ok next) :
    ∃ calls, Effect deployment ext msg world (.autoResolveArbitration bindingId) calls next := by
  simp only [autoResolveArbitration, bind_eq_ok, enter_eq_ok, requireBinding_eq_ok,
    require_eq_ok, checkedAdd_eq_ok, Except.ok.injEq] at ran
  obtain ⟨_, ⟨-, rfl⟩, _, ⟨opened, rfl⟩, _, disputed, _, started, _, unresolved, _, ⟨-, rfl⟩, _,
    closed, _, -, _, -, outcome, ran, rfl⟩ := ran
  obtain ⟨event, calls, paid⟩ := autoOutcome_ok ran
  refine ⟨calls, paid_effect opened (.autoResolved bindingId disputed started unresolved closed)
    paid ?_ (.silent rfl rfl rfl)⟩
  rw [conclude_of_disputed disputed, Storage.resolve, if_pos started]
  rfl

theorem resolveDispute_effect {bindingId buyerShareBps : Nat}
    (ran : resolveDispute deployment ext msg world bindingId buyerShareBps = .ok next) :
    ∃ calls, Effect deployment ext msg world (.resolveDispute bindingId buyerShareBps) calls next := by
  simp only [resolveDispute, bind_eq_ok, enter_eq_ok, requireBinding_eq_ok, require_eq_ok,
    Except.ok.injEq] at ran
  obtain ⟨_, ⟨-, rfl⟩, _, admin, _, share, _, ⟨opened, rfl⟩, _, disputed, split, ran, rfl⟩ := ran
  obtain ⟨calls, paid⟩ := executeSplit_ok ran
  refine ⟨calls, paid_effect opened (.adminResolved bindingId buyerShareBps admin share disputed)
    paid ?_ (.silent rfl rfl rfl)⟩
  rw [conclude_of_disputed disputed]
  rfl

theorem refundOnTimeout_effect
    (ran : refundOnTimeout deployment ext msg world bindingId = .ok next) :
    ∃ calls, Effect deployment ext msg world (.refundOnTimeout bindingId) calls next := by
  simp only [refundOnTimeout, bind_eq_ok, enter_eq_ok, requireBinding_eq_ok, require_eq_ok,
    checkedAdd_eq_ok, Except.ok.injEq] at ran
  obtain ⟨_, ⟨-, rfl⟩, _, ⟨opened, rfl⟩, _, started, _, ⟨-, rfl⟩, _, timeout, _, buyer, refunded,
    ran, rfl⟩ := ran
  obtain ⟨calls, paid⟩ := executeRefund_ok ran
  have undisputed : (world.storage.bindings bindingId).state ≠ .disputed := by
    rcases started with active | pending
    · rw [active]; decide
    · rw [pending]; decide
  have effect := paid_effect opened (.timedOut bindingId started timeout buyer) paid
    (conclude_of_ne undisputed).symm (.silent rfl rfl rfl)
  exact ⟨calls, effect.change,
    ⟨effect.around.tokenCalls_eq, effect.around.interaction, effect.around.now_eq⟩, .inl rfl⟩

theorem unlock_effect {billId : Nat} (ran : unlock deployment ext msg world billId = .ok next) :
    ∃ calls, Effect deployment ext msg world (.unlock billId) calls next := by
  simp only [unlock, bind_eq_ok, enter_eq_ok, requireBill_eq_ok, requireBillState, require_eq_ok,
    checkedDebit_eq_ok, burnBill_eq_ok, checkInvariant_eq_ok, Except.ok.injEq] at ran
  obtain ⟨_, ⟨-, rfl⟩, _, ⟨issued, rfl⟩, _, owner, _, minted, _, -, _, ⟨-, rfl⟩, _, ⟨-, rfl⟩, _,
    ⟨-, rfl⟩, _, ⟨-, rfl⟩, paid, transferred, _, ⟨-, rfl⟩, _, -, rfl⟩ := ran
  change (world.storage.bills billId).owner = msg.sender at owner
  obtain ⟨sameStorage, around⟩ := transfer_ok transferred
  refine ⟨_, ?_, ⟨around.tokenCalls_eq, around.interaction, around.now_eq⟩, .inl rfl⟩
  have storage_eq : paid.storage = world.storage.release billId := by
    rw [sameStorage]
    simp only [World.emit, Storage.release, owner]
  change Change deployment ext msg world.storage _ paid.storage _
  rw [storage_eq]
  exact .released billId issued owner minted

theorem setter_effect {setter : Setter} {written : Config × Event}
    (ran : runSetter deployment msg.sender world.storage setter = .ok written) :
    Effect deployment ext msg world (.setter setter) [] (world.configured written) :=
  ⟨.configured setter written.1 written.2 ran, .silent rfl rfl rfl, .inr rfl⟩

/-- The counters of every account add up, and nothing was ever authorized. -/
structure Regular (storage : Storage) : Prop where
  minted_eq : ∀ account, storage.totalMintedByAddr account =
    storage.freeBalance account + storage.boundBalance account
  unauthorized : ∀ authId, storage.authorizations authId = {}

/-- `authorize` takes an amount out of the free balance and then insists that the
counters still add up, so it always reverts. -/
theorem authorize_error {token target : Address} {amount expiresAt authId : Nat}
    (ran : authorize deployment msg world token amount target expiresAt = .ok (authId, next))
    (regular : Regular world.storage) : False := by
  simp only [authorize, bind_eq_ok, enter_eq_ok, require_eq_ok, checkedDebit_eq_ok,
    checkPerAddressInvariant_eq_ok, Except.ok.injEq] at ran
  obtain ⟨_, ⟨-, rfl⟩, _, -, _, nonzero, _, -, _, enough, _, ⟨-, rfl⟩, _, ⟨-, added⟩, -⟩ := ran
  have minted := regular.minted_eq msg.sender
  simp only [debit_apply, if_true] at added enough
  omega

theorem requireAuth_error {authId : Nat} {auth : Authorization} (regular : Regular world.storage)
    (ran : world.storage.requireAuth authId = .ok auth) : False := by
  simp only [Storage.requireAuth, require_bind_eq_ok, regular.unauthorized] at ran
  exact ran.1 rfl

theorem accept_error {authId : Nat} (ran : accept deployment msg world authId = .ok next)
    (regular : Regular world.storage) : False := by
  simp only [accept, bind_eq_ok, enter_eq_ok] at ran
  obtain ⟨_, ⟨-, rfl⟩, auth, found, -⟩ := ran
  exact requireAuth_error regular found

theorem cancelAuthorization_error {authId : Nat}
    (ran : cancelAuthorization deployment msg world authId = .ok next)
    (regular : Regular world.storage) : False := by
  simp only [cancelAuthorization, bind_eq_ok, enter_eq_ok] at ran
  obtain ⟨_, ⟨-, rfl⟩, auth, found, -⟩ := ran
  exact requireAuth_error regular found

/-- Every successful transaction has one of the effects. -/
theorem exec_effect {call : Call} (regular : Regular world.storage)
    (ran : exec deployment ext msg call world = .ok next) :
    ∃ calls, Effect deployment ext msg { world with now := msg.timestamp } call calls next := by
  unfold exec at ran
  cases call with
  | lock token amount =>
      simp only [dispatch, map_eq_ok] at ran
      obtain ⟨⟨_, _⟩, ran, rfl⟩ := ran
      exact ⟨_, lock_effect ran⟩
  | bind buyerBillId agentBillId scopeHash =>
      simp only [dispatch, map_eq_ok] at ran
      obtain ⟨⟨_, _⟩, ran, rfl⟩ := ran
      exact ⟨_, bind_effect ran⟩
  | bindWithAttestation buyerBillId agentBillId scopeHash taskId =>
      simp only [dispatch, map_eq_ok] at ran
      obtain ⟨⟨_, _⟩, ran, rfl⟩ := ran
      exact ⟨_, bindWithAttestation_effect ran⟩
  | bindWithIntent intent buyerBillId agentBillId =>
      simp only [dispatch, map_eq_ok] at ran
      obtain ⟨⟨_, _⟩, ran, rfl⟩ := ran
      exact ⟨_, bindWithIntent_effect ran⟩
  | settle bindingId proofHash => exact settle_effect ran
  | finalizeSettle bindingId => exact finalizeSettle_effect ran
  | dispute bindingId evidenceHash => exact ⟨_, dispute_effect ran⟩
  | submitArbitrationEvidence bindingId evidenceHash =>
      exact ⟨_, submitArbitrationEvidence_effect ran⟩
  | autoResolveArbitration bindingId => exact autoResolveArbitration_effect ran
  | settleWithTEE bindingId proofHash teeAttestation =>
      simp [dispatch, settleWithTEE, bind_eq_ok] at ran
  | settleWithZKProof bindingId proofHash zkProof =>
      simp [dispatch, settleWithZKProof, bind_eq_ok] at ran
  | resolveDispute bindingId buyerShareBps => exact resolveDispute_effect ran
  | refundOnTimeout bindingId => exact refundOnTimeout_effect ran
  | unlock billId => exact unlock_effect ran
  | authorize token amount target expiresAt =>
      simp only [dispatch, map_eq_ok] at ran
      obtain ⟨⟨_, _⟩, ran, rfl⟩ := ran
      exact (authorize_error ran regular).elim
  | accept authId => exact (accept_error ran regular).elim
  | cancelAuthorization authId => exact (cancelAuthorization_error ran regular).elim
  | setter setter =>
      simp only [dispatch, map_eq_ok] at ran
      obtain ⟨written, ran, rfl⟩ := ran
      exact ⟨_, setter_effect ran⟩

end EntryPoints

end TrustChain.Bilateral
