import TrustChain.Bilateral.Windows

/-!
# Bindings with and without attestation

Whether a binding requires an attestation, and for which task, is fixed when it is opened.
With the requirement it is settled at once or not at all; without it every settlement
goes through a submission. An account that only ever calls `settle` owns no bills.
-/

namespace TrustChain.Bilateral

open Library Function Storage

/-- The states from which a settlement or a refund starts. -/
def BindingState.Waiting (state : BindingState) : Prop := state = .active ∨ state = .pending

instance (state : BindingState) : Decidable state.Waiting :=
  inferInstanceAs (Decidable (_ ∨ _))

/-- An attested binding has no submitted settlement that could be finalized or disputed. -/
def Dossier.Direct (dossier : Dossier) : Prop :=
  dossier.attested = true →
    dossier.binding.state ≠ .finalizing ∧ dossier.binding.state ≠ .disputed

/-- A binding without attestation whose settlement was submitted. -/
def Dossier.Submitted (dossier : Dossier) : Prop :=
  dossier.attested = false ∧
    (dossier.binding.state = .finalizing ∨ dossier.binding.state = .disputed ∨
      dossier.binding.state = .settled)

section Fates

variable {deployment : Deployment} {ext : Externals} {msg : Message deployment} {storage : Storage}
  {bindingId : Nat} {call : Call} {dossier : Dossier} {calls : List TokenCall}

variable (fate : Fate deployment ext msg storage bindingId call dossier calls)

include fate

theorem Fate.direct (direct : (storage.dossier bindingId).Direct) : dossier.Direct := by
  intro attested
  cases fate with
  | kept call unnamed => exact direct attested
  | opened call terms state unopened binds bindable started =>
      rcases started with rfl | rfl <;> simp
  | submitted proofHash opened started unattested =>
      exact absurd (attested.symm.trans unattested) (by simp)
  | disputed evidenceHash opened finalizing => exact absurd finalizing (direct attested).1
  | evidence => exact direct attested
  | paid call payout => cases payout <;> simp [Payout.mark]

/-- A settlement without attestation was submitted before, or is now. -/
theorem Fate.submitted_before (submitted : dossier.Submitted) :
    (storage.dossier bindingId).Submitted ∨ dossier.binding.state = .finalizing := by
  obtain ⟨unattested, state⟩ := submitted
  cases fate with
  | kept call unnamed => exact .inl ⟨unattested, state⟩
  | opened call terms first unopened binds bindable started =>
      rcases started with rfl | rfl <;> simp at state
  | submitted => exact .inr rfl
  | disputed evidenceHash opened finalizing => exact .inl ⟨unattested, .inl finalizing⟩
  | evidence => exact .inl ⟨unattested, state⟩
  | paid call payout calls opened entitled =>
      cases entitled with
      | attested _ _ started required => exact absurd (required.symm.trans unattested) (by simp)
      | finalized _ finalizing => exact .inl ⟨unattested, .inl finalizing⟩
      | autoResolved _ disputed => exact .inl ⟨unattested, .inr (.inl disputed)⟩
      | adminResolved _ _ _ _ disputed => exact .inl ⟨unattested, .inr (.inl disputed)⟩
      | timedOut => simp [Payout.mark] at state

omit fate in
theorem not_submitted_fresh (bindingId : Nat) :
    ¬(({} : Storage).dossier bindingId).Submitted := by
  simp [Dossier.Submitted, Storage.dossier]

/-- Requirement and task of a binding are fixed. -/
theorem Fate.requirement (opened : storage.Opened bindingId) :
    dossier.attested = storage.requiresAttestation bindingId ∧
      dossier.taskId = storage.bindingTaskId bindingId := by
  cases fate with
  | opened call terms state unopened => exact absurd opened unopened
  | _ => exact ⟨rfl, rfl⟩

end Fates

/-! ## Steps -/

section Steps

variable {deployment : Deployment} {world next : World} {action : Action deployment}
  {bindingId : Nat}

theorem step_requirement (reachable : (system deployment).Reachable world)
    (step : (system deployment).Step world action next) (opened : world.storage.Opened bindingId) :
    next.storage.requiresAttestation bindingId = world.storage.requiresAttestation bindingId ∧
      next.storage.bindingTaskId bindingId = world.storage.bindingTaskId bindingId := by
  cases step_fate reachable step bindingId with
  | token token operation ledger => exact ⟨rfl, rfl⟩
  | call msg ext call calls own dossier next later now_eq tokenCalls_eq owned dossier_eq fate =>
      change (next.storage.dossier bindingId).attested = _ ∧
        (next.storage.dossier bindingId).taskId = _
      rw [dossier_eq]
      exact fate.requirement opened

theorem reachable_direct (reachable : (system deployment).Reachable world) (bindingId : Nat) :
    (world.storage.dossier bindingId).Direct := by
  refine reachable.invariant (fun state initial => ?_) (fun state action next earlier direct step => ?_)
  · rw [initial.1]
    simp [Dossier.Direct, Storage.dossier]
  · cases step_fate earlier step bindingId with
    | token token operation ledger => exact direct
    | call msg ext call calls own dossier next later now_eq tokenCalls_eq owned dossier_eq fate =>
        rw [dossier_eq]
        exact fate.direct direct

theorem step_submitted_before (reachable : (system deployment).Reachable world)
    (step : (system deployment).Step world action next)
    (submitted : (next.storage.dossier bindingId).Submitted) :
    (world.storage.dossier bindingId).Submitted ∨
      (next.storage.bindings bindingId).state = .finalizing := by
  cases step_fate reachable step bindingId with
  | token token operation ledger => exact .inl submitted
  | call msg ext call calls own dossier next later now_eq tokenCalls_eq owned dossier_eq fate =>
      change _ ∨ (next.storage.dossier bindingId).binding.state = .finalizing
      rw [dossier_eq] at submitted ⊢
      exact fate.submitted_before submitted

/-- How an attested binding leaves its first states. -/
inductive AttestedExit (deployment : Deployment) (world : World) (bindingId : Nat) :
    Action deployment → World → Prop
  | settled (msg : Message deployment) (ext : Externals) (proofHash : Bytes32) (next : World) :
      msg.sender = world.storage.config.attestationGateway →
      (next.storage.bindings bindingId).state = .settled →
      (next.storage.bindings bindingId).proofHash = proofHash →
      AttestedExit deployment world bindingId (.call msg ext (.settle bindingId proofHash)) next
  | refunded (msg : Message deployment) (ext : Externals) (next : World) :
      msg.sender = world.storage.buyerOwner bindingId →
      (next.storage.bindings bindingId).state = .refunded →
      AttestedExit deployment world bindingId (.call msg ext (.refundOnTimeout bindingId)) next

/-- An attested binding stays in its first states, or leaves them by one of two calls. -/
theorem step_attested_exit (reachable : (system deployment).Reachable world)
    (step : (system deployment).Step world action next)
    (attested : world.storage.requiresAttestation bindingId = true)
    (waiting : (world.storage.bindings bindingId).state.Waiting)
    (moved : ¬(next.storage.bindings bindingId).state.Waiting) :
    AttestedExit deployment world bindingId action next := by
  cases step_fate reachable step bindingId with
  | token token operation ledger => exact absurd waiting moved
  | call msg ext call calls own dossier next later now_eq tokenCalls_eq owned dossier_eq fate =>
      have binding_eq : next.storage.bindings bindingId = dossier.binding :=
        congrArg Dossier.binding dossier_eq
      rw [binding_eq] at moved
      cases fate with
      | kept call unnamed => exact absurd waiting moved
      | opened call terms state unopened binds bindable started => exact absurd started moved
      | submitted proofHash opened started unattested =>
          exact absurd (attested.symm.trans unattested) (by simp)
      | disputed evidenceHash opened finalizing =>
          rcases waiting with state | state <;> exact absurd (state.symm.trans finalizing) (by simp)
      | evidence => exact absurd waiting moved
      | paid call payout calls opened entitled =>
          cases entitled with
          | attested _ proofHash started required gateway =>
              refine .settled msg ext proofHash next gateway ?_ ?_
              · rw [binding_eq]; rfl
              · rw [binding_eq]; rfl
          | finalized _ finalizing =>
              rcases waiting with state | state <;>
                exact absurd (state.symm.trans finalizing) (by simp)
          | autoResolved _ disputed
          | adminResolved _ _ _ _ disputed =>
              rcases waiting with state | state <;>
                exact absurd (state.symm.trans disputed) (by simp)
          | timedOut _ started late buyer =>
              refine .refunded msg ext next buyer ?_
              rw [binding_eq]
              rfl

end Steps

/-! ## Accounts without bills -/

section Bills

variable {deployment : Deployment} {world next : World} {account : Address} {bindingId : Nat}

/-- No bill was ever handed out to `account`. -/
def NoBill (account : Address) (storage : Storage) : Prop :=
  ∀ billId, storage.Issued billId → (storage.bills billId).owner ≠ account

/-- A bill is handed out by a deposit, to the depositor. -/
theorem Change.issued_before {ext : Externals} {msg : Message deployment} {storage after : Storage}
    {call : Call} {calls : List TokenCall} {billId : Nat} (valid : Valid storage)
    (change : Change deployment ext msg storage call after calls) (issued : after.Issued billId) :
    storage.Issued billId ∨
      (after.bills billId).owner = msg.sender ∧ ∃ token amount, call = .lock token amount := by
  have isBill := (issued_iff (change.wellFormed valid)).mp issued
  cases change with
  | locked token amount nonzero fits =>
      by_cases new : billId = storage.billCounter + 1
      · subst new
        exact .inr ⟨by simp [Storage.issue], token, amount, rfl⟩
      · exact .inl (by simpa [Storage.Issued, Storage.issue, update_of_ne new] using issued)
  | paid call bindingId payout calls config opened entitled retirable disbursed reconfigured =>
      obtain ⟨arbitrations, same⟩ := conclude_eq storage bindingId
      rw [same] at isBill
      exact .inl ((issued_iff valid.wellFormed).mpr isBill)
  | _ => exact .inl ((issued_iff valid.wellFormed).mpr isBill)

/-- Who deposits nothing is handed out no bill. -/
theorem step_noBill {msg : Message deployment} {ext : Externals} {call : Call}
    (reachable : (system deployment).Reachable world)
    (step : (system deployment).Step world (.call msg ext call) next)
    (idle : msg.sender = account → ∀ token amount, call ≠ .lock token amount)
    (noBill : NoBill account world.storage) : NoBill account next.storage := by
  have valid := reachable_valid reachable
  cases reachable_happened reachable step with
  | call msg ext call calls next later effect =>
      intro billId issued
      rcases effect.change.issued_before valid issued with before | ⟨owner, token, amount, rfl⟩
      · obtain ⟨-, kept⟩ := effect.change.bill_kept valid before
        have owner : (next.storage.bills billId).owner = (world.storage.bills billId).owner :=
          kept.owner_eq
        rw [owner]
        exact noBill billId before
      · rw [owner]
        exact fun same => idle same token amount rfl

/-- What a settlement by somebody who owns no bills requires and does. -/
structure SettledAtOnce (world : World) (bindingId : Nat) (proofHash : Bytes32) (next : World) :
    Prop where
  opened : world.storage.Opened bindingId
  attested : world.storage.requiresAttestation bindingId = true
  waiting : (world.storage.bindings bindingId).state.Waiting
  settled : (next.storage.bindings bindingId).state = .settled
  proofHash_eq : (next.storage.bindings bindingId).proofHash = proofHash

/-- Only a party submits a settlement, so everybody else settles at once. -/
theorem settle_noBill {msg : Message deployment} {ext : Externals} {proofHash : Bytes32}
    (reachable : (system deployment).Reachable world)
    (step : (system deployment).Step world (.call msg ext (.settle bindingId proofHash)) next)
    (noBill : NoBill msg.sender world.storage) :
    SettledAtOnce world bindingId proofHash next := by
  have valid := reachable_valid reachable
  cases step_fate reachable step bindingId with
  | call _ _ _ calls own dossier next later now_eq tokenCalls_eq owned dossier_eq fate =>
      have binding_eq : next.storage.bindings bindingId = dossier.binding :=
        congrArg Dossier.binding dossier_eq
      cases fate with
      | kept _ unnamed => exact absurd rfl unnamed
      | opened _ terms state unopened binds => cases binds
      | submitted _ opened started unattested party =>
          obtain ⟨buyerIssued, agentIssued⟩ := valid.bills_issued opened
          rcases party with isBuyer | isAgent
          · exact absurd isBuyer.symm (noBill _ buyerIssued)
          · exact absurd isAgent.symm (noBill _ agentIssued)
      | paid _ payout _ opened entitled =>
          cases entitled with
          | attested _ _ started required isGateway =>
              refine ⟨opened, required, started, ?_, ?_⟩
              · rw [binding_eq]; rfl
              · rw [binding_eq]; rfl

end Bills

end TrustChain.Bilateral
