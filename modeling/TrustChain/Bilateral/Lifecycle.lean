import TrustChain.Bilateral.Refinement

/-!
# The life of one binding

`Fate` follows a single binding through one transaction: it is left alone, opened, or
moved on by exactly one of the calls that name it. The temporal results about bindings
are inductions over these cases.
-/

namespace TrustChain.Bilateral

open Library Function Storage

/-- The binding a call names. -/
def Call.binding : Call → Option Nat
  | .settle bindingId _ | .finalizeSettle bindingId | .dispute bindingId _
  | .submitArbitrationEvidence bindingId _ | .autoResolveArbitration bindingId
  | .settleWithTEE bindingId _ _ | .settleWithZKProof bindingId _ _
  | .resolveDispute bindingId _ | .refundOnTimeout bindingId => some bindingId
  | _ => none

/-- What the storage remembers about one binding. -/
structure Dossier where
  binding : Binding
  arbitration : ArbitrationRecord
  attested : Bool
  taskId : Bytes32

def Storage.dossier (storage : Storage) (bindingId : Nat) : Dossier :=
  ⟨storage.bindings bindingId, storage.arbitrations bindingId,
    storage.requiresAttestation bindingId, storage.bindingTaskId bindingId⟩

section Fates

variable (deployment : Deployment) (ext : Externals) (msg : Message deployment) (storage : Storage)
  (bindingId : Nat)

/-- What a transaction does to one binding, and with which token calls on its behalf. -/
inductive Fate : Call → Dossier → List TokenCall → Prop
  | kept (call : Call) :
      call.binding ≠ some bindingId → Fate call (storage.dossier bindingId) []
  | opened (call : Call) (terms : Terms) (state : BindingState) :
      ¬storage.Opened bindingId →
      call.Binds deployment terms →
      Bindable storage msg.sender terms →
      state = .active ∨ state = .pending →
      Fate call
        { binding :=
            { bindingId
              buyerBillId := terms.buyerBillId
              agentBillId := terms.agentBillId
              scopeHash := terms.scopeHash
              state
              createdAt := msg.timestamp
              settleAfter := msg.timestamp + storage.config.disputeWindowSeconds }
          arbitration := {}
          attested := terms.task.isSome
          taskId := terms.task.getD 0 } []
  | submitted (proofHash : Bytes32) :
      storage.Opened bindingId →
      (storage.bindings bindingId).state = .active ∨
        (storage.bindings bindingId).state = .pending →
      storage.requiresAttestation bindingId = false →
      msg.sender = (storage.bills (storage.bindings bindingId).buyerBillId).owner ∨
        msg.sender = (storage.bills (storage.bindings bindingId).agentBillId).owner →
      msg.timestamp + storage.config.disputeWindow < wordSize →
      Fate (.settle bindingId proofHash)
        { storage.dossier bindingId with
          binding := { storage.bindings bindingId with
            state := .finalizing
            proofHash := proofHash
            settleSubmittedAt := msg.timestamp } } []
  | disputed (evidenceHash : Bytes32) :
      storage.Opened bindingId →
      (storage.bindings bindingId).state = .finalizing →
      msg.timestamp < (storage.bindings bindingId).settleSubmittedAt +
        storage.config.disputeWindow →
      msg.sender = (storage.bills (storage.bindings bindingId).buyerBillId).owner →
      Fate (.dispute bindingId evidenceHash)
        { storage.dossier bindingId with
          binding := { storage.bindings bindingId with
            state := .disputed
            disputedAt := msg.timestamp
            disputeInitiator := msg.sender }
          arbitration :=
            { buyerEvidenceHash := evidenceHash
              buyerSubmittedAt := msg.timestamp
              startedAt := msg.timestamp } } []
  | evidence (evidenceHash : Bytes32) (byBuyer : Bool) :
      storage.Opened bindingId →
      (storage.bindings bindingId).state = .disputed →
      msg.sender = (if byBuyer then (storage.bills (storage.bindings bindingId).buyerBillId).owner
        else (storage.bills (storage.bindings bindingId).agentBillId).owner) →
      Fate (.submitArbitrationEvidence bindingId evidenceHash)
        { storage.dossier bindingId with
          arbitration :=
            if byBuyer then
              { storage.arbitrations bindingId with
                buyerEvidenceHash := evidenceHash
                buyerSubmittedAt := msg.timestamp }
            else
              { storage.arbitrations bindingId with
                agentEvidenceHash := evidenceHash
                agentSubmittedAt := msg.timestamp } } []
  | paid (call : Call) (payout : Payout) (calls : List TokenCall) :
      storage.Opened bindingId →
      Entitled deployment msg storage call bindingId payout →
      Disbursed ext storage.config bindingId
        (storage.bills (storage.bindings bindingId).buyerBillId)
        (storage.bills (storage.bindings bindingId).agentBillId) payout calls →
      Fate call
        { storage.dossier bindingId with
          binding := payout.mark (storage.bindings bindingId)
          arbitration := (storage.conclude bindingId).arbitrations bindingId } calls

end Fates

section Permanence

variable {deployment : Deployment} {ext : Externals} {msg : Message deployment}
  {storage next : Storage} {call : Call} {calls : List TokenCall} {bindingId : Nat}

theorem Entitled.names {payout : Payout}
    (entitled : Entitled deployment msg storage call bindingId payout) :
    call.binding = some bindingId := by
  cases entitled <;> rfl

theorem Call.Binds.unnamed {terms : Terms} (binds : call.Binds deployment terms) :
    call.binding = none := by
  cases binds <;> rfl

theorem dossier_setBinding_of_ne {otherId : Nat} (different : bindingId ≠ otherId) (b : Binding) :
    (storage.setBinding otherId b).dossier bindingId = storage.dossier bindingId := by
  simp only [Storage.dossier, Storage.setBinding, update_of_ne different]

theorem dossier_setArbitration_of_ne {otherId : Nat} (different : bindingId ≠ otherId)
    (record : ArbitrationRecord) :
    (storage.setArbitration otherId record).dossier bindingId = storage.dossier bindingId := by
  simp only [Storage.dossier, Storage.setArbitration, update_of_ne different]

theorem dossier_conclude_of_ne {otherId : Nat} (different : bindingId ≠ otherId) :
    (storage.conclude otherId).dossier bindingId = storage.dossier bindingId := by
  unfold Storage.conclude Storage.resolve
  split
  · split
    · exact dossier_setArbitration_of_ne different _
    · rfl
  · rfl

theorem writeSome_of_ne {α : Type} {records : Nat → α} {id otherId : Nat} (different : id ≠ otherId)
    (value : Option α) : writeSome records otherId value id = records id := by
  cases value with
  | none => rfl
  | some value => exact update_of_ne different _ _

/-- The dossier of a binding that has just been opened. -/
theorem dossier_freeze (wellFormed : WellFormed storage) (terms : Terms) (state : BindingState)
    (timestamp : Nat) (fresh : ¬storage.ledger.IsPact (storage.bindingCounter + 1)) :
    (storage.freeze terms state timestamp).dossier (storage.bindingCounter + 1) =
      { binding :=
          { bindingId := storage.bindingCounter + 1
            buyerBillId := terms.buyerBillId
            agentBillId := terms.agentBillId
            scopeHash := terms.scopeHash
            state
            createdAt := timestamp
            settleAfter := timestamp + storage.config.disputeWindowSeconds }
        arbitration := {}
        attested := terms.task.isSome
        taskId := terms.task.getD 0 } := by
  have arbitration := wellFormed.arbitrations.outside _ fresh
  have attested := wellFormed.requiresAttestation.outside _ fresh
  have taskId := wellFormed.bindingTaskId.outside _ fresh
  simp only [Storage.dossier, Storage.freeze, update_self, arbitration]
  cases terms.task with
  | none => simp [writeSome, attested, taskId]
  | some task => simp [writeSome]

/-- The dossier of a binding that has just been paid out. -/
theorem dossier_close (payout : Payout) (config : Config) :
    ({ (storage.conclude bindingId).close bindingId payout with config := config } :
      Storage).dossier bindingId =
      { storage.dossier bindingId with
        binding := payout.mark (storage.bindings bindingId)
        arbitration := (storage.conclude bindingId).arbitrations bindingId } := by
  obtain ⟨arbitrations, same⟩ := conclude_eq storage bindingId
  rw [same]
  simp only [Storage.dossier, Storage.close, Storage.retire, Storage.setBinding, update_self]

/-- Every transaction has one of the fates for every binding. Token calls it makes on
behalf of other bindings or of bills are left out. -/
theorem Change.fate (valid : Valid storage)
    (change : Change deployment ext msg storage call next calls) (bindingId : Nat) :
    Fate deployment ext msg storage bindingId call (next.dossier bindingId)
      (if call.binding = some bindingId then calls else []) := by
  cases change with
  | configured setter config event ran =>
      rw [ite_self]
      exact .kept _ (by simp [Call.binding])
  | locked token amount nonzero fits => exact .kept _ (by simp [Call.binding])
  | bound call terms state binds bindable started fits =>
      rw [ite_self]
      by_cases new : bindingId = storage.bindingCounter + 1
      · subst new
        have fresh : ¬storage.ledger.IsPact (storage.bindingCounter + 1) :=
          fun isPact => Nat.not_succ_le_self _ isPact.2
        have unopened := fresh ∘ (opened_iff valid.wellFormed).mp
        have opened : Fate deployment ext msg storage (storage.bindingCounter + 1) _ _ _ :=
          .opened call terms state unopened binds bindable started
        rwa [← dossier_freeze valid.wellFormed terms state msg.timestamp fresh] at opened
      · have same : (storage.freeze terms state msg.timestamp).dossier bindingId =
            storage.dossier bindingId := by
          simp only [Storage.dossier, Storage.freeze, update_of_ne new, writeSome_of_ne new]
        rw [same]
        exact .kept _ (by simp [binds.unnamed])
  | submitted otherId proofHash opened started unattested party fits =>
      rw [ite_self]
      by_cases same : bindingId = otherId
      · subst same
        have submitted : Fate deployment ext msg storage bindingId _ _ _ :=
          .submitted proofHash opened started unattested party fits
        simpa only [Storage.dossier, Storage.setBinding, update_self] using submitted
      · rw [dossier_setBinding_of_ne same]
        exact .kept _ fun equal => same (Option.some.inj equal).symm
  | disputed otherId evidenceHash opened finalizing early buyer =>
      rw [ite_self]
      by_cases same : bindingId = otherId
      · subst same
        have disputed : Fate deployment ext msg storage bindingId _ _ _ :=
          .disputed evidenceHash opened finalizing early buyer
        simpa only [Storage.dossier, Storage.setBinding, Storage.setArbitration, update_self]
          using disputed
      · rw [dossier_setArbitration_of_ne same, dossier_setBinding_of_ne same]
        exact .kept _ fun equal => same (Option.some.inj equal).symm
  | evidence otherId evidenceHash byBuyer opened disputed started unresolved party =>
      rw [ite_self]
      by_cases same : bindingId = otherId
      · subst same
        have evidence : Fate deployment ext msg storage bindingId _ _ _ :=
          .evidence evidenceHash byBuyer opened disputed party
        simpa only [Storage.dossier, Storage.setArbitration, update_self] using evidence
      · rw [dossier_setArbitration_of_ne same]
        exact .kept _ fun equal => same (Option.some.inj equal).symm
  | paid call otherId payout calls config opened entitled retirable disbursed reconfigured =>
      rw [entitled.names]
      by_cases same : bindingId = otherId
      · subst same
        rw [if_pos rfl]
        have paid := Fate.paid call payout calls opened entitled disbursed
        rwa [← dossier_close] at paid
      · rw [if_neg fun equal => same (Option.some.inj equal).symm]
        change Fate deployment ext msg storage bindingId call
          (((storage.conclude otherId).setBinding otherId _).dossier bindingId) []
        rw [dossier_setBinding_of_ne same, dossier_conclude_of_ne same]
        exact .kept _ fun equal => same (Option.some.inj (entitled.names.symm.trans equal)).symm
  | released billId issued owner minted => exact .kept _ (by simp [Call.binding])

/-- Bills keep their owner, token and amount, and burned bills stay burned. -/
theorem Change.bill_kept (valid : Valid storage)
    (change : Change deployment ext msg storage call next calls) {billId : Nat}
    (issued : storage.Issued billId) :
    next.Issued billId ∧ Ledger.BillKept (storage.bills billId).bill (next.bills billId).bill := by
  have isBill := (issued_iff valid.wellFormed).mp issued
  obtain ⟨isBill', kept⟩ := (change.move valid.wellFormed).bill_kept isBill
  exact ⟨(issued_iff (change.wellFormed valid)).mpr isBill', kept⟩

/-- Bindings keep their two bills. -/
theorem Change.binding_kept (valid : Valid storage)
    (change : Change deployment ext msg storage call next calls) (opened : storage.Opened bindingId) :
    next.Opened bindingId ∧
      (next.bindings bindingId).buyerBillId = (storage.bindings bindingId).buyerBillId ∧
      (next.bindings bindingId).agentBillId = (storage.bindings bindingId).agentBillId := by
  have isPact := (opened_iff valid.wellFormed).mp opened
  obtain ⟨isPact', buyer, agent, -⟩ := (change.move valid.wellFormed).pact_kept isPact
  exact ⟨(opened_iff (change.wellFormed valid)).mpr isPact', buyer, agent⟩

/-- The two bills of an opened binding were handed out. -/
theorem Valid.bills_issued (valid : Valid storage) (opened : storage.Opened bindingId) :
    storage.Issued (storage.bindings bindingId).buyerBillId ∧
      storage.Issued (storage.bindings bindingId).agentBillId := by
  have sound := valid.consistent.paired.sound bindingId ((opened_iff valid.wellFormed).mp opened)
  exact ⟨(issued_iff valid.wellFormed).mpr sound.buyer_isBill,
    (issued_iff valid.wellFormed).mpr sound.agent_isBill⟩

/-- Nothing happens to a binding that is settled or refunded. -/
theorem Fate.of_closed {dossier : Dossier}
    (fate : Fate deployment ext msg storage bindingId call dossier calls)
    (opened : storage.Opened bindingId)
    (closed : (storage.bindings bindingId).state.live = false) :
    dossier = storage.dossier bindingId ∧ calls = [] := by
  cases fate with
  | kept call unnamed => exact ⟨rfl, rfl⟩
  | opened call terms state unopened => exact absurd opened unopened
  | submitted proofHash _ started =>
      rcases started with state | state <;> rw [state] at closed <;> cases closed
  | disputed evidenceHash _ finalizing => rw [finalizing] at closed; cases closed
  | evidence evidenceHash byBuyer _ disputed => rw [disputed] at closed; cases closed
  | paid call payout calls _ entitled => rw [entitled.live] at closed; cases closed

end Permanence

/-! ## Steps and runs -/

section Steps

variable {deployment : Deployment} {world next : World} {action : Action deployment}
  {bindingId : Nat}

/-- The owners of the bills of a binding. -/
def Storage.buyerOwner (storage : Storage) (bindingId : Nat) : Address :=
  (storage.bills (storage.bindings bindingId).buyerBillId).owner

def Storage.agentOwner (storage : Storage) (bindingId : Nat) : Address :=
  (storage.bills (storage.bindings bindingId).agentBillId).owner

/-- The token of a binding, and the amount its two bills add up to. -/
def Storage.tokenOf (storage : Storage) (bindingId : Nat) : Address :=
  (storage.bills (storage.bindings bindingId).buyerBillId).token

def Storage.pool (storage : Storage) (bindingId : Nat) : Nat :=
  (storage.bills (storage.bindings bindingId).buyerBillId).amount +
    (storage.bills (storage.bindings bindingId).agentBillId).amount

/-- Whether an action is a transaction that names the binding. -/
def Action.names (bindingId : Nat) : Action deployment → Prop
  | .call _ _ made => made.binding = some bindingId
  | .token _ _ => False

/-- One step seen from a binding that is already open: its parties stay the same, and its
dossier meets one of the fates. -/
structure BindingStep (deployment : Deployment) (world : World) (action : Action deployment)
    (next : World) (bindingId : Nat) : Prop where
  opened : next.storage.Opened bindingId
  buyerBillId_eq : (next.storage.bindings bindingId).buyerBillId =
    (world.storage.bindings bindingId).buyerBillId
  agentBillId_eq : (next.storage.bindings bindingId).agentBillId =
    (world.storage.bindings bindingId).agentBillId
  buyer_kept : Ledger.BillKept (world.storage.bills (world.storage.bindings bindingId).buyerBillId).bill
    (next.storage.bills (world.storage.bindings bindingId).buyerBillId).bill
  agent_kept : Ledger.BillKept (world.storage.bills (world.storage.bindings bindingId).agentBillId).bill
    (next.storage.bills (world.storage.bindings bindingId).agentBillId).bill

theorem step_binding (reachable : (system deployment).Reachable world)
    (step : (system deployment).Step world action next) (opened : world.storage.Opened bindingId) :
    BindingStep deployment world action next bindingId := by
  have valid := reachable_valid reachable
  obtain ⟨buyerIssued, agentIssued⟩ := valid.bills_issued opened
  cases reachable_happened reachable step with
  | token token operation ledger foreign ran => exact ⟨opened, rfl, rfl, .refl _, .refl _⟩
  | call msg ext call calls next later effect =>
      obtain ⟨opened', buyer, agent⟩ := effect.change.binding_kept valid opened
      exact ⟨opened', buyer, agent, (effect.change.bill_kept valid buyerIssued).2,
        (effect.change.bill_kept valid agentIssued).2⟩

theorem BindingStep.buyerOwner_eq (step : BindingStep deployment world action next bindingId) :
    next.storage.buyerOwner bindingId = world.storage.buyerOwner bindingId := by
  unfold Storage.buyerOwner
  rw [step.buyerBillId_eq]
  exact step.buyer_kept.owner_eq

theorem BindingStep.agentOwner_eq (step : BindingStep deployment world action next bindingId) :
    next.storage.agentOwner bindingId = world.storage.agentOwner bindingId := by
  unfold Storage.agentOwner
  rw [step.agentBillId_eq]
  exact step.agent_kept.owner_eq

/-- What one step does to a binding; `own` are the token calls made on its behalf. -/
inductive StepFate (deployment : Deployment) (world : World) (bindingId : Nat) :
    Action deployment → World → Prop
  | token (token : Address) (operation : Erc20.Operation Address) (ledger : Erc20 Address) :
      StepFate deployment world bindingId (.token token operation)
        { world with tokens := update world.tokens token ledger }
  | call (msg : Message deployment) (ext : Externals) (call : Call) (calls own : List TokenCall)
      (dossier : Dossier) (next : World) :
      world.now ≤ msg.timestamp →
      next.now = msg.timestamp →
      next.tokenCalls = world.tokenCalls ++ calls →
      (call.binding = some bindingId → own = calls) →
      next.storage.dossier bindingId = dossier →
      Fate deployment ext msg world.storage bindingId call dossier own →
      StepFate deployment world bindingId (.call msg ext call) next

theorem step_fate (reachable : (system deployment).Reachable world)
    (step : (system deployment).Step world action next) (bindingId : Nat) :
    StepFate deployment world bindingId action next := by
  have valid := reachable_valid reachable
  cases reachable_happened reachable step with
  | token token operation ledger foreign ran => exact .token token operation ledger
  | call msg ext call calls next later effect =>
      exact .call msg ext call calls _ _ next later effect.around.now_eq
        effect.around.tokenCalls_eq (fun named => if_pos named) rfl
        (effect.change.fate valid bindingId)

end Steps

end TrustChain.Bilateral
