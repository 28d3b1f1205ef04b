import TrustChain.Service.Books
import TrustChain.Service.Frames

/-!
# The guard of the settlement store

Saves of one settlement, one after the other. The guard keeps the accepted terms while the
stored status is ranked from `accepted` on, and a settlement that is over changes its status only
by being frozen. A frozen settlement, which has no rank, can be thawed into another status on
other terms.
-/

namespace TrustChain.Service

open Library

/-- The terms that are fixed once a settlement is accepted. -/
structure SettlementState.SameAccepted (row next : SettlementState) : Prop where
  escrowAmount : next.escrowAmount = row.escrowAmount
  currency : next.currency = row.currency
  clientAgentId : next.clientAgentId = row.clientAgentId
  workerAgentId : next.workerAgentId = row.workerAgentId

namespace SettlementState.SameAccepted

variable {row middle next : SettlementState}

theorem refl (row : SettlementState) : row.SameAccepted row := ⟨rfl, rfl, rfl, rfl⟩

theorem trans (first : row.SameAccepted middle) (second : middle.SameAccepted next) :
    row.SameAccepted next where
  escrowAmount := second.escrowAmount.trans first.escrowAmount
  currency := second.currency.trans first.currency
  clientAgentId := second.clientAgentId.trans first.clientAgentId
  workerAgentId := second.workerAgentId.trans first.workerAgentId

end SettlementState.SameAccepted

/-- No immutable field differs exactly if all four agree. -/
theorem SettlementState.changedField_eq_none {existing row : SettlementState} :
    existing.changedField row = none ↔ existing.SameAccepted row := by
  unfold SettlementState.changedField
  constructor
  · intro unchanged
    split_ifs at unchanged with escrow currency client worker
    exact ⟨(not_not.mp escrow).symm, (not_not.mp currency).symm, (not_not.mp client).symm,
      (not_not.mp worker).symm⟩
  · rintro ⟨escrow, currency, client, worker⟩
    simp [escrow, currency, client, worker]

/-- The successful saves under one settlement identifier, from no row on. -/
def store : TransitionSystem (Option SettlementState) SettlementState where
  Init existing := existing = none
  Step existing state next := (saveRow existing state).toOption.map some = some next

/-- The saves over a row that is neither settled nor frozen. -/
abbrev rankedStore : TransitionSystem (Option SettlementState) SettlementState :=
  store.restrict fun existing _ => ∀ row ∈ existing, row.stage ≠ .settled ∧ row.stage ≠ .frozen

/-- The saves that do not freeze. -/
abbrev unfrozenStore : TransitionSystem (Option SettlementState) SettlementState :=
  store.restrict fun _ state => canonicalTaskStatus state.status ≠ .frozen

instance (existing next : Option SettlementState) (state : SettlementState) :
    Decidable (store.Step existing state next) :=
  inferInstanceAs (Decidable ((saveRow existing state).toOption.map some = some next))

section Saves

variable {existing next : Option SettlementState} {row later state : SettlementState}
  {saves before after : List SettlementState}

theorem store_step : store.Step existing state next ↔
    ∃ row, saveRow existing state = .ok row ∧ next = some row := by
  change (saveRow existing state).toOption.map some = some next ↔ _
  rw [Option.map_eq_some_iff]
  simp only [toOption_eq_some]
  exact exists_congr fun row => and_congr_right fun _ => eq_comm

/-- What a save over a stored row has checked. -/
theorem saveRow_checked (saved : saveRow (some row) state = .ok later) :
    (later.stage = row.stage ∨ canTransition row.stage later.stage = true) ∧
      (isPostAccepted row.stage = true → row.SameAccepted later) := by
  obtain rfl := saveRow_ok saved
  rw [saveRow, require_bind_eq_ok] at saved
  obtain ⟨moves, kept⟩ := saved
  have stage : state.toRow.stage = canonicalTaskStatus state.status := by
    change canonicalTaskStatus (canonicalTaskStatus state.status) = _
    cases state.status <;> rfl
  refine ⟨stage ▸ moves.imp_left Eq.symm, fun accepted => ?_⟩
  split at kept
  · cases kept
  · next unchanged =>
      rw [SettlementState.stage] at accepted
      rw [if_pos accepted] at unchanged
      exact SettlementState.changedField_eq_none.mp unchanged

theorem statusOrder_of_mem {status : TaskStatus}
    (accepted : statusOrder .accepted ≤ statusOrder status) :
    ∀ target ∈ validTransitions status, target ≠ .settled ∧ target ≠ .frozen →
      statusOrder .accepted ≤ statusOrder target := by
  revert accepted
  cases status <;> decide

/-- A settlement that is accepted stays so until it is settled or frozen. -/
theorem isPostAccepted_of_canTransition {status target : TaskStatus}
    (accepted : isPostAccepted status = true)
    (moves : target = status ∨ canTransition status target = true)
    (ranked : canonicalTaskStatus target ≠ .settled ∧ canonicalTaskStatus target ≠ .frozen) :
    isPostAccepted target = true := by
  rcases moves with rfl | allowed
  · exact accepted
  · refine decide_eq_true (statusOrder_of_mem (of_decide_eq_true accepted) _ ?_ ranked)
    exact List.contains_iff_mem.mp allowed

/-- Saves over an accepted settlement that is neither settled nor frozen. -/
theorem accepted_kept (accepted : isPostAccepted row.stage = true)
    (run : rankedStore.Run (some row) saves next) :
    ∃ later, next = some later ∧ row.SameAccepted later ∧
      (later.stage ≠ .settled ∧ later.stage ≠ .frozen → isPostAccepted later.stage = true) := by
  induction run with
  | nil => exact ⟨row, rfl, .refl row, fun _ => accepted⟩
  | snoc _ step ih =>
      obtain ⟨middle, rfl, same, ranked⟩ := ih
      obtain ⟨later, saved, rfl⟩ := store_step.mp step.1
      have before := ranked (step.2 middle rfl)
      obtain ⟨moves, kept⟩ := saveRow_checked saved
      refine ⟨later, rfl, same.trans (kept before), fun elsewhere => ?_⟩
      apply isPostAccepted_of_canTransition before moves
      rwa [stage_stage]

/-- Saves that do not freeze a settlement that is over. -/
theorem terminal_kept (terminal : row.stage.Terminal)
    (run : unfrozenStore.Run (some row) saves next) :
    ∃ later, next = some later ∧ later.stage = row.stage := by
  induction run with
  | nil => exact ⟨row, rfl, rfl⟩
  | @snoc _ middle _ state _ step ih =>
      obtain ⟨before, rfl, same⟩ := ih
      obtain ⟨later, saved, rfl⟩ := store_step.mp step.1
      refine ⟨later, rfl, ?_⟩
      rcases (saveRow_checked saved).1 with stays | moves
      · exact stays.trans same
      · have thaws : canonicalTaskStatus later.stage ≠ .frozen := by
          rw [stage_stage, saveRow_ok saved]
          have unfrozen : canonicalTaskStatus state.status ≠ .frozen := step.2
          change canonicalTaskStatus (canonicalTaskStatus state.status) ≠ .frozen
          cases held : state.status <;> rw [held] at unfrozen <;> exact unfrozen
        rw [same] at moves
        exact absurd terminal (not_terminal_of_canTransition moves thaws)

/-- What is stored has a canonical status. -/
theorem stored_canonical (run : store.Run none before next) :
    ∀ row ∈ next, row.stage = row.status := by
  cases run with
  | nil => exact fun row there => absurd there (Option.not_mem_none row)
  | snoc _ step =>
      obtain ⟨later, saved, rfl⟩ := store_step.mp step
      intro row there
      obtain rfl := Option.some.inj there
      rw [saveRow_ok saved]
      exact stage_stage _

/-- From the first save ranked at `accepted` or later the accepted terms stay until a settled or
frozen row is saved over, and a settlement that is over keeps its status until it is frozen. -/
theorem accepted_terms_kept (stored : store.Run none before (some row)) :
    (isPostAccepted row.status = true →
      rankedStore.Run (some row) after (some later) → row.SameAccepted later) ∧
    (row.status.Terminal →
      unfrozenStore.Run (some row) after (some later) → later.status = row.status) := by
  have canonical := stored_canonical stored row rfl
  constructor
  · intro accepted run
    rw [← canonical] at accepted
    obtain ⟨again, same, kept, -⟩ := accepted_kept accepted run
    obtain rfl := Option.some.inj same
    exact kept
  · intro terminal run
    rw [← canonical] at terminal
    obtain ⟨again, same, status⟩ := terminal_kept terminal run
    obtain rfl := Option.some.inj same
    have whole := stored_canonical (stored.append run.of_restrict) later rfl
    exact whole.symm.trans (status.trans canonical)

end Saves

/-! ## Scenes -/

namespace Demo

/-- A settlement over ten in a status. -/
def terms (status : TaskStatus) : SettlementState where
  taskId := "t"
  escrowAmount := 10
  status
  clientAgentId := buyer
  workerAgentId := some seller

/-- Other terms, all released to another worker. -/
def otherTerms (status : TaskStatus) : SettlementState :=
  { terms status with
    escrowAmount := 20
    workerAgentId := some "other"
    releasedAmount := some 20 }

/-- The first save of a settlement, in a canonical status. -/
theorem first_save (state : SettlementState) : store.Run none [state] (some state.toRow) :=
  .single rfl

end Demo

theorem accepted_terms_kept_delivered :
    (Demo.terms .accepted).SameAccepted (Demo.terms .settled) ∧
      (Demo.terms .refunded).status = .refunded := by
  have accepted : store.Run none [Demo.terms .accepted] (some (Demo.terms .accepted)) :=
    Demo.first_save _
  have refunded : store.Run none [Demo.terms .refunded] (some (Demo.terms .refunded)) :=
    Demo.first_save _
  have worked : rankedStore.Step (some (Demo.terms .accepted)) (Demo.terms .inProgress)
      (some (Demo.terms .inProgress)) := ⟨by decide +kernel, by decide +kernel⟩
  have settled : rankedStore.Step (some (Demo.terms .inProgress)) (Demo.terms .settled)
      (some (Demo.terms .settled)) := ⟨by decide +kernel, by decide +kernel⟩
  have again : unfrozenStore.Step (some (Demo.terms .refunded)) (Demo.terms .refunded)
      (some (Demo.terms .refunded)) := ⟨by decide +kernel, by decide +kernel⟩
  exact ⟨(accepted_terms_kept accepted).1 rfl ((TransitionSystem.Run.single worked).snoc settled),
    (accepted_terms_kept refunded).2 (by decide) (.single again)⟩

/-- Frozen and thawed, a refunded settlement is settled on other terms. -/
theorem not_accepted_terms_kept :
    store.Run none [Demo.terms .refunded] (some (Demo.terms .refunded)) ∧
      store.Run (some (Demo.terms .refunded)) [Demo.terms .frozen, Demo.otherTerms .settled]
        (some (Demo.otherTerms .settled)) ∧
      isPostAccepted (Demo.terms .refunded).status = true ∧
      ¬(Demo.terms .refunded).SameAccepted (Demo.otherTerms .settled) ∧
      (Demo.terms .refunded).status.Terminal ∧ (Demo.otherTerms .settled).status.Terminal ∧
      (Demo.otherTerms .settled).status ≠ (Demo.terms .refunded).status ∧
      (Demo.otherTerms .settled).releasedAmount ≠ (Demo.terms .refunded).releasedAmount := by
  refine ⟨Demo.first_save _, ?_, by decide, fun same => ?_, by decide, by decide, by decide,
    by decide⟩
  · have frozen : store.Step (some (Demo.terms .refunded)) (Demo.terms .frozen)
        (some (Demo.terms .frozen)) := by decide +kernel
    exact (TransitionSystem.Run.single frozen).snoc (by decide +kernel)
  · exact absurd same.workerAgentId (by decide)

end TrustChain.Service
