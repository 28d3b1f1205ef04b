import TrustChain.Bilateral.Effects
import TrustChain.Bilateral.Ledger

/-!
# The contract refines the escrow ledger

Every transaction is a move of the ledger seen through its storage, so the ledger of
every reachable state is consistent. The same induction carries what the storage adds:
identifiers not handed out are blank, and no authorization is ever created.
-/

namespace TrustChain.Bilateral

open Library Function Storage

def BillToken.bill (bill : BillToken) : Bill Address Address :=
  ⟨bill.owner, bill.token, bill.amount, bill.state⟩

def Binding.pact (b : Binding) : Pact := ⟨b.buyerBillId, b.agentBillId, b.state.live⟩

/-- The ledger that a storage implements. -/
def Storage.ledger (storage : Storage) : Ledger Address Address where
  billCount := storage.billCounter
  bill := BillToken.bill ∘ storage.bills
  pactCount := storage.bindingCounter
  pact := Binding.pact ∘ storage.bindings
  supply := storage.totalBillSupply
  locked := storage.totalLocked
  pending := storage.pendingBatchAmount
  free := storage.freeBalance
  bound := storage.boundBalance
  minted := storage.totalMintedByAddr
  lockedBy := storage.totalLockedByAddr

/-- What the storage guarantees besides its ledger. -/
structure WellFormed (storage : Storage) : Prop where
  bills : Counted storage.billCounter storage.bills {} fun bill =>
    bill.mintedAt ≠ 0 ∧ 0 < bill.amount
  bindings : Counted storage.bindingCounter storage.bindings {} fun b => b.createdAt ≠ 0
  arbitrations : Counted storage.bindingCounter storage.arbitrations {} fun _ => True
  requiresAttestation : Counted storage.bindingCounter storage.requiresAttestation false fun _ => True
  bindingTaskId : Counted storage.bindingCounter storage.bindingTaskId 0 fun _ => True
  unauthorized : ∀ authId, storage.authorizations authId = {}
  minted_lt : ∀ account, storage.totalMintedByAddr account < wordSize
  pending_lt : ∀ token, storage.pendingBatchAmount token < wordSize

/-- The invariant of the contract. -/
structure Valid (storage : Storage) : Prop where
  consistent : storage.ledger.Consistent
  wellFormed : WellFormed storage

namespace Storage

variable {storage : Storage}

@[simp] theorem ledger_bill (billId : Nat) :
    storage.ledger.bill billId = (storage.bills billId).bill := rfl

@[simp] theorem ledger_pact (bindingId : Nat) :
    storage.ledger.pact bindingId = (storage.bindings bindingId).pact := rfl

theorem issued_iff (wellFormed : WellFormed storage) {billId : Nat} :
    storage.Issued billId ↔ storage.ledger.IsBill billId := by
  constructor
  · intro issued
    by_contra blank
    exact issued (by rw [wellFormed.bills.outside billId blank])
  · intro isBill
    exact (wellFormed.bills.inside billId isBill.1 isBill.2).1

theorem opened_iff (wellFormed : WellFormed storage) {bindingId : Nat} :
    storage.Opened bindingId ↔ storage.ledger.IsPact bindingId := by
  constructor
  · intro opened
    by_contra blank
    exact opened (by rw [wellFormed.bindings.outside bindingId blank])
  · intro isPact
    exact wellFormed.bindings.inside bindingId isPact.1 isPact.2

theorem ledger_issue (owner token : Address) (amount timestamp : Nat) :
    (storage.issue owner token amount timestamp).ledger =
      storage.ledger.mint owner token amount := by
  simp only [ledger, issue, comp_update]
  rfl

theorem ledger_freeze (terms : Terms) {state : BindingState} (live : state.live = true)
    (timestamp : Nat) :
    (storage.freeze terms state timestamp).ledger =
      storage.ledger.bind terms.buyerBillId terms.agentBillId := by
  simp only [ledger, freeze, comp_update, Binding.pact, live]
  rfl

theorem ledger_release (billId : Nat) :
    (storage.release billId).ledger = storage.ledger.withdraw billId := by
  simp only [ledger, release, comp_update]
  rfl

/-- Rewriting a binding without touching its bills or its liveness is no move. -/
theorem ledger_setBinding (bindingId : Nat) (b : Binding)
    (same : b.pact = (storage.bindings bindingId).pact) :
    (storage.setBinding bindingId b).ledger = storage.ledger := by
  have unchanged : update (Binding.pact ∘ storage.bindings) bindingId b.pact =
      Binding.pact ∘ storage.bindings := by
    rw [same]
    exact update_eq_self bindingId (Binding.pact ∘ storage.bindings)
  simp only [ledger, setBinding, comp_update, unchanged]

theorem ledger_close (bindingId : Nat) (payout : Payout) :
    (storage.close bindingId payout).ledger = storage.ledger.close bindingId := by
  have closed : (payout.mark (storage.bindings bindingId)).pact =
      { (storage.bindings bindingId).pact with live := false } := by
    cases payout <;> rfl
  simp only [ledger, close, retire, setBinding, comp_update, closed]
  rfl

theorem ledger_conclude (bindingId : Nat) :
    (storage.conclude bindingId).ledger = storage.ledger := by
  obtain ⟨arbitrations, same⟩ := conclude_eq storage bindingId
  rw [same]
  rfl

end Storage

section Preservation

variable {deployment : Deployment} {ext : Externals} {msg : Message deployment}
  {storage next : Storage} {call : Call} {calls : List TokenCall}

/-- A payout is made of a binding that is still live. -/
theorem Entitled.live {bindingId : Nat} {payout : Payout}
    (entitled : Entitled deployment msg storage call bindingId payout) :
    (storage.bindings bindingId).state.live = true := by
  cases entitled with
  | attested _ _ started => rcases started with state | state <;> rw [state] <;> rfl
  | finalized _ state => rw [state]; rfl
  | autoResolved _ state => rw [state]; rfl
  | adminResolved _ _ _ _ state => rw [state]; rfl
  | timedOut _ started => rcases started with state | state <;> rw [state] <;> rfl

theorem Bindable.ledger {sender : Address} {terms : Terms}
    (bindable : Bindable storage sender terms) (wellFormed : WellFormed storage) :
    storage.ledger.Bindable terms.buyerBillId terms.agentBillId where
  buyer_isBill := (issued_iff wellFormed).mp bindable.buyer_issued
  agent_isBill := (issued_iff wellFormed).mp bindable.agent_issued
  buyer_minted := bindable.buyer_minted
  agent_minted := bindable.agent_minted
  same_token := bindable.same_token
  owners_ne := bindable.owners_ne

theorem Change.move (wellFormed : WellFormed storage)
    (change : Change deployment ext msg storage call next calls) :
    storage.ledger.Move next.ledger := by
  cases change with
  | configured setter config event ran => exact .idle _
  | locked token amount nonzero fits =>
      rw [ledger_issue]
      exact .mint _ _ _ _
  | bound call terms state binds bindable started fits =>
      have live : state.live = true := by rcases started with rfl | rfl <;> rfl
      rw [ledger_freeze terms live]
      exact .bind _ _ _ (bindable.ledger wellFormed)
  | submitted bindingId proofHash opened started unattested party fits =>
      rw [ledger_setBinding]
      · exact .idle _
      · rcases started with state | state <;> simp [Binding.pact, state, BindingState.live]
  | disputed bindingId evidenceHash opened finalizing early buyer =>
      change storage.ledger.Move (storage.setBinding bindingId _).ledger
      rw [ledger_setBinding]
      · exact .idle _
      · simp [Binding.pact, finalizing, BindingState.live]
  | evidence bindingId evidenceHash byBuyer opened disputed started unresolved party =>
      exact .idle _
  | paid call bindingId payout calls config opened entitled retirable disbursed reconfigured =>
      change storage.ledger.Move ((storage.conclude bindingId).close bindingId payout).ledger
      rw [ledger_close, ledger_conclude]
      exact .close _ bindingId ((opened_iff wellFormed).mp opened) entitled.live
  | released billId issued owner minted =>
      rw [ledger_release]
      exact .withdraw _ billId ((issued_iff wellFormed).mp issued) minted

/-- Writing the states of two bills keeps the table of bills well formed. -/
theorem bills_restated (wellFormed : WellFormed storage) {firstId secondId : Nat}
    (first : storage.ledger.IsBill firstId) (second : storage.ledger.IsBill secondId)
    (state : BillState) :
    Counted storage.billCounter
      (update (update storage.bills firstId { storage.bills firstId with state := state })
        secondId { storage.bills secondId with state := state }) {}
      fun bill => bill.mintedAt ≠ 0 ∧ 0 < bill.amount := by
  refine (wellFormed.bills.write first.1 first.2 ?_).write second.1 second.2 ?_
  · exact wellFormed.bills.inside firstId first.1 first.2
  · exact wellFormed.bills.inside secondId second.1 second.2

theorem debit_le {κ : Type} [DecidableEq κ] (totals : κ → Nat) (key query : κ) (amount : Nat) :
    debit totals key amount query ≤ totals query := by
  rw [debit_apply]
  exact Nat.sub_le _ _

theorem WellFormed.configured (wellFormed : WellFormed storage) (config : Config) :
    WellFormed { storage with config := config } := by
  obtain ⟨bills, bindings, arbitrations, attestation, taskId, unauthorized, minted, pending⟩ :=
    wellFormed
  exact ⟨bills, bindings, arbitrations, attestation, taskId, unauthorized, minted, pending⟩

theorem WellFormed.conclude (wellFormed : WellFormed storage) {bindingId : Nat}
    (isPact : storage.ledger.IsPact bindingId) : WellFormed (storage.conclude bindingId) := by
  obtain ⟨bills, bindings, arbitrations, attestation, taskId, unauthorized, minted, pending⟩ :=
    wellFormed
  unfold Storage.conclude Storage.resolve
  split
  · split
    · exact ⟨bills, bindings, arbitrations.write isPact.1 isPact.2 trivial, attestation, taskId,
        unauthorized, minted, pending⟩
    · exact ⟨bills, bindings, arbitrations, attestation, taskId, unauthorized, minted, pending⟩
  · exact ⟨bills, bindings, arbitrations, attestation, taskId, unauthorized, minted, pending⟩

theorem WellFormed.close (wellFormed : WellFormed storage) {bindingId : Nat}
    (isPact : storage.ledger.IsPact bindingId)
    (sound : storage.ledger.Sound (storage.bindings bindingId).pact) (payout : Payout) :
    WellFormed (storage.close bindingId payout) := by
  have opened : (payout.mark (storage.bindings bindingId)).createdAt ≠ 0 := by
    have before := wellFormed.bindings.inside bindingId isPact.1 isPact.2
    cases payout <;> exact before
  constructor
  case bills => exact bills_restated wellFormed sound.buyer_isBill sound.agent_isBill .burned
  case bindings => exact wellFormed.bindings.write isPact.1 isPact.2 opened
  case arbitrations => exact wellFormed.arbitrations
  case requiresAttestation => exact wellFormed.requiresAttestation
  case bindingTaskId => exact wellFormed.bindingTaskId
  case unauthorized => exact wellFormed.unauthorized
  case minted_lt =>
    intro account
    exact ((debit_le _ _ _ _).trans (debit_le _ _ _ _)).trans_lt (wellFormed.minted_lt account)
  case pending_lt =>
    intro token
    exact (debit_le _ _ _ _).trans_lt (wellFormed.pending_lt token)

theorem Change.wellFormed (valid : Valid storage)
    (change : Change deployment ext msg storage call next calls) : WellFormed next := by
  have wellFormed := valid.wellFormed
  obtain ⟨bills, bindings, arbitrations, attestation, taskId, unauthorized, minted, pending⟩ :=
    valid.wellFormed
  cases change with
  | configured setter config event ran =>
      exact wellFormed.configured config
  | locked token amount nonzero fits =>
      refine ⟨bills.push ⟨?_, ?_⟩, bindings, arbitrations, attestation, taskId, unauthorized, ?_,
        pending⟩
      · exact Nat.pos_iff_ne_zero.mp msg.timestamp_pos
      · exact Nat.pos_of_ne_zero nonzero
      · intro account
        have before := minted account
        simp only [Storage.issue, credit_apply]
        split
        · next same => subst same; exact fits
        · exact before
  | bound call terms state binds bindable started fits =>
      have buyer := (issued_iff wellFormed).mp bindable.buyer_issued
      have agent := (issued_iff wellFormed).mp bindable.agent_issued
      refine ⟨bills_restated wellFormed buyer agent .bound,
        bindings.push (Nat.pos_iff_ne_zero.mp msg.timestamp_pos), arbitrations.grow trivial, ?_, ?_,
        unauthorized, minted, ?_⟩
      · simp only [Storage.freeze]
        cases terms.task with
        | none => exact attestation.grow trivial
        | some task => exact attestation.push trivial
      · simp only [Storage.freeze]
        cases terms.task with
        | none => exact taskId.grow trivial
        | some task => exact taskId.push trivial
      · intro token
        have before := pending token
        simp only [Storage.freeze, credit_apply]
        split
        · next same => subst same; exact fits
        · exact before
  | submitted bindingId proofHash opened started unattested party fits =>
      have isPact := (opened_iff wellFormed).mp opened
      exact ⟨bills, bindings.write isPact.1 isPact.2 opened, arbitrations, attestation, taskId,
        unauthorized, minted, pending⟩
  | disputed bindingId evidenceHash opened finalizing early buyer =>
      have isPact := (opened_iff wellFormed).mp opened
      exact ⟨bills, bindings.write isPact.1 isPact.2 opened,
        arbitrations.write isPact.1 isPact.2 trivial, attestation, taskId, unauthorized, minted,
        pending⟩
  | evidence bindingId evidenceHash byBuyer opened disputed started unresolved party =>
      have isPact := (opened_iff wellFormed).mp opened
      exact ⟨bills, bindings, arbitrations.write isPact.1 isPact.2 trivial, attestation, taskId,
        unauthorized, minted, pending⟩
  | paid call bindingId payout calls config opened entitled retirable disbursed reconfigured =>
      have isPact := (opened_iff wellFormed).mp opened
      have sound := valid.consistent.paired.sound bindingId isPact
      obtain ⟨arbitrations, same⟩ := conclude_eq storage bindingId
      have concluded := wellFormed.conclude isPact
      rw [same] at concluded ⊢
      exact (concluded.close isPact sound payout).configured config
  | released billId issued owner isMinted =>
      have isBill := (issued_iff wellFormed).mp issued
      refine ⟨bills.write isBill.1 isBill.2 (bills.inside billId isBill.1 isBill.2), bindings,
        arbitrations, attestation, taskId, unauthorized, ?_, pending⟩
      intro account
      exact (debit_le _ _ _ _).trans_lt (minted account)

theorem Change.valid (valid : Valid storage)
    (change : Change deployment ext msg storage call next calls) : Valid next :=
  ⟨valid.consistent.move (change.move valid.wellFormed), change.wellFormed valid⟩

theorem Valid.regular (valid : Valid storage) : Regular storage :=
  ⟨valid.consistent.balanced.minted_eq, valid.wellFormed.unauthorized⟩

theorem Valid.fresh : Valid {} where
  consistent := Ledger.Consistent.fresh rfl rfl rfl rfl rfl rfl rfl rfl rfl
  wellFormed := by
    have none : ∀ {α : Type} (blank : α) (valid : α → Prop), Counted 0 (fun _ => blank) blank valid :=
      fun blank valid => ⟨fun _ _ => rfl, fun id lower upper => by omega⟩
    exact ⟨none _ _, none _ _, none _ _, none _ _, none _ _, fun _ => rfl,
      fun _ => by simp [wordSize], fun _ => by simp [wordSize]⟩

end Preservation

/-! ## Reachable worlds -/

section Reachability

variable {deployment : Deployment} {world next : World} {action : Action deployment}

/-- What one step does: a token operation of somebody else, or a transaction's effect. -/
inductive Happened (deployment : Deployment) (world : World) : Action deployment → World → Prop
  | token (token : Address) (operation : Erc20.Operation Address) (ledger : Erc20 Address) :
      operation.caller ≠ some deployment.self →
      (world.tokens token).run operation = some ledger →
      Happened deployment world (.token token operation)
        { world with tokens := update world.tokens token ledger }
  | call (msg : Message deployment) (ext : Externals) (call : Call) (calls : List TokenCall)
      (next : World) :
      world.now ≤ msg.timestamp →
      Effect deployment ext msg { world with now := msg.timestamp } call calls next →
      Happened deployment world (.call msg ext call) next

theorem step_happened (valid : Valid world.storage)
    (step : (system deployment).Step world action next) : Happened deployment world action next := by
  cases action with
  | token token operation =>
      obtain ⟨foreign, ledger, ran, rfl⟩ := step_token.mp step
      exact .token token operation ledger foreign ran
  | call msg ext call =>
      obtain ⟨later, ran⟩ := step_call.mp step
      obtain ⟨calls, effect⟩ := exec_effect valid.regular ran
      exact .call msg ext call calls next later effect

theorem Happened.valid (valid : Valid world.storage)
    (happened : Happened deployment world action next) : Valid next.storage := by
  cases happened with
  | token token operation ledger foreign ran => exact valid
  | call msg ext call calls next later effect => exact effect.change.valid valid

theorem reachable_valid (reachable : (system deployment).Reachable world) :
    Valid world.storage := by
  refine reachable.invariant (fun state initial => ?_) (fun state action next _ valid step => ?_)
  · rw [initial.1]
    exact .fresh
  · exact (step_happened valid step).valid valid

/-- Between transactions the reentrancy flag is lowered. -/
theorem reachable_unlocked (reachable : (system deployment).Reachable world) : world.status = 1 := by
  refine reachable.invariant (fun state initial => initial.2.1)
    (fun state action next earlier unlocked step => ?_)
  cases step_happened (reachable_valid earlier) step with
  | token token operation ledger foreign ran => exact unlocked
  | call msg ext call calls next later effect =>
      rcases effect.flag with lowered | same
      · exact lowered
      · exact same.trans unlocked

theorem reachable_happened (reachable : (system deployment).Reachable world)
    (step : (system deployment).Step world action next) : Happened deployment world action next :=
  step_happened (reachable_valid reachable) step

end Reachability

/-! ## The simulation -/

/-- The escrow ledger by itself, empty at first. -/
def escrow : TransitionSystem (Ledger Address Address) Unit where
  Init ledger := ledger = Storage.ledger {}
  Step ledger _ next := ledger.Move next

/-- Bills keep owner, token and amount, and pacts their two bills; what is burned or closed
stays so. -/
structure Kept (ledger later : Ledger Address Address) : Prop where
  bills : ∀ billId, ledger.IsBill billId →
    later.IsBill billId ∧ Ledger.BillKept (ledger.bill billId) (later.bill billId)
  pacts : ∀ pactId, ledger.IsPact pactId → later.IsPact pactId ∧
    (later.pact pactId).buyer = (ledger.pact pactId).buyer ∧
    (later.pact pactId).agent = (ledger.pact pactId).agent ∧
    ((ledger.pact pactId).live = false → (later.pact pactId).live = false)

theorem kept_of_run {ledger later : Ledger Address Address} {moves : List Unit}
    (run : escrow.Run ledger moves later) : Kept ledger later := by
  induction run with
  | nil => exact ⟨fun _ issued => ⟨issued, .refl _⟩, fun _ opened => ⟨opened, rfl, rfl, id⟩⟩
  | snoc _ move ih =>
      constructor
      · intro billId issued
        obtain ⟨here, kept⟩ := ih.bills billId issued
        obtain ⟨there, again⟩ := Ledger.Move.bill_kept move here
        exact ⟨there, again.owner_eq.trans kept.owner_eq, again.token_eq.trans kept.token_eq,
          again.amount_eq.trans kept.amount_eq, again.burned ∘ kept.burned⟩
      · intro pactId opened
        obtain ⟨here, buyer, agent, closed⟩ := ih.pacts pactId opened
        obtain ⟨there, buyerAgain, agentAgain, closedAgain⟩ := Ledger.Move.pact_kept move here
        exact ⟨there, buyerAgain.trans buyer, agentAgain.trans agent, closedAgain ∘ closed⟩

/-- Every run of the contract is one of the escrow ledger. -/
theorem refines_escrow {deployment : Deployment} {start world : World}
    {actions : List (Action deployment)} (reachable : (system deployment).Reachable start)
    (run : (system deployment).Run start actions world) :
    escrow.Run start.storage.ledger (actions.map fun _ => ()) world.storage.ledger ∧
      Kept start.storage.ledger world.storage.ledger := by
  have simulated : escrow.Run start.storage.ledger (actions.map fun _ => ())
      world.storage.ledger := by
    induction run with
    | nil => exact .nil
    | snoc earlier step ih =>
        rw [List.map_append]
        refine ih.snoc ?_
        have valid := reachable_valid (reachable.run earlier)
        cases step_happened valid step with
        | token => exact .idle _
        | call msg ext call calls next later effect => exact effect.change.move valid.wellFormed
  exact ⟨simulated, kept_of_run simulated⟩

theorem refines_escrow_finalized : Kept (Storage.ledger {}) Demo.finalized.world.storage.ledger :=
  (refines_escrow (.init Demo.start_init) Demo.finalized.run).2

end TrustChain.Bilateral
