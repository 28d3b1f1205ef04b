import TrustChain.Identity.Ledger

/-!
# Tampering with the trust ledger

The check of the ledger should fail for ever once somebody without the key has changed what is
stored. It does not see a ledger whose links the machine has all made, such as one that has lost
its tail, and the machine itself chains a tampered ledger anew when it drops its head. Nothing else
is missed.
-/

namespace TrustChain.Identity

open Library HashChain

section

variable {δ : Type} [DecidableEq δ] {scheme : Scheme δ} {state next : State δ} {action : Action δ}

/-- Tampered with, and yet the check finds nothing. -/
def State.Missed (scheme : Scheme δ) (state : State δ) : Prop :=
  state.tampered = true ∧ (verifyLedgerIntegrity scheme state.ledger).isOk = true

/-- The record that an action appends. -/
def Action.appends : Action δ → Option Record
  | .recordEvent args entryId now => some (args.record entryId now)
  | .transition args entryId now => args.event.map fun event => event.record entryId now
  | .edit _ => none

/-- An edit leaves a link that the machine has not made; and the machine drops nothing from a
ledger that has been tampered with. -/
def Guarded (scheme : Scheme δ) (state : State δ) (action : Action δ) : Prop :=
  (∀ ledger, action = .edit ledger → state.tampered = true ∨ ledger ≠ state.ledger →
    ¬Made state.transcript scheme.genesis ledger) ∧
  (action.appends.isSome → state.tampered = true → state.ledger.length < ledgerMax)

theorem after_append {record : Record} (appends : action.appends = some record) :
    after scheme state action = state.append scheme record := by
  cases action with
  | recordEvent args entryId now =>
      obtain rfl := Option.some.inj appends
      rfl
  | transition args entryId now =>
      obtain ⟨event, is, rfl⟩ := Option.map_eq_some_iff.mp appends
      simp [after, is]
  | edit ledger => simp [Action.appends] at appends

theorem after_none (appends : action.appends = none)
    (keeps : ∀ ledger, action ≠ .edit ledger) : after scheme state action = state := by
  cases action with
  | recordEvent args entryId now => simp [Action.appends] at appends
  | transition args entryId now =>
      rw [Action.appends, Option.map_eq_none_iff] at appends
      simp [after, appends]
  | edit ledger => exact absurd rfl (keeps ledger)

/-- The machine makes only hashed links. -/
theorem transcript_hashed (reachable : (system scheme).Reachable state) :
    ∀ link ∈ state.transcript, Hashed scheme.entryHash link := by
  refine reachable.invariant ?_ ?_
  · rintro _ rfl link member
    simp at member
  · rintro state action next - hashed ⟨-, rfl⟩
    cases appends : action.appends with
    | some record =>
        rw [after_append appends]
        intro link member
        rcases List.mem_append.mp member with old | new
        · exact hashed link old
        · rcases List.mem_cons.mp new with rfl | further
          · exact nextEntry_hashed
          · split at further
            · rename_i full
              exact rebased_verifies (Nat.lt_succ_iff.mp full) link further
            · simp at further
    | none =>
        cases action with
        | recordEvent => simp [Action.appends] at appends
        | transition => exact after_none appends (by simp) ▸ hashed
        | edit ledger => exact hashed

/-- From a state in which nothing is missed, the guarded actions are those that lead to such a
state. -/
theorem guarded_iff (injective : Function.Injective2 scheme.entryHash)
    (reachable : (system scheme).Reachable state) (noticed : ¬state.Missed scheme)
    (step : (system scheme).Step state action next) :
    Guarded scheme state action ↔ ¬next.Missed scheme := by
  obtain ⟨keyless, rfl⟩ := step
  simp only [State.Missed, isOk_iff, not_and] at noticed ⊢
  cases appends : action.appends with
  | some record =>
      have unedited : ∀ ledger, action ≠ .edit ledger := by
        rintro ledger rfl
        simp [Action.appends] at appends
      rw [after_append appends]
      have guarded : Guarded scheme state action ↔
          (state.tampered = true → state.ledger.length < ledgerMax) := by
        simp [Guarded, unedited, appends]
      rw [guarded]
      constructor
      · intro fits tampered verifies
        exact noticed tampered ((appendLedger_verifies (fits tampered)).mp verifies)
      · intro broken tampered
        by_contra full
        exact broken tampered (rebased_verifies (Nat.not_lt.mp full))
  | none =>
      cases action with
      | recordEvent => simp [Action.appends] at appends
      | transition args entryId now =>
          rw [after_none appends (by simp)]
          simpa [Guarded, appends] using noticed
      | edit ledger =>
          have made : Verifies scheme.entryHash scheme.genesis ledger ↔
              Made state.transcript scheme.genesis ledger :=
            verifies_iff_made injective (transcript_hashed reachable) (keyless ledger rfl)
          simp [Guarded, Action.appends, after, State.edit, made]

/-- With a hash that has no collisions, a run goes unnoticed nowhere exactly if all its actions are
guarded. -/
theorem tampering_noticed_iff (injective : Function.Injective2 scheme.entryHash)
    {actions : List (Action δ)} {finish : State δ}
    (run : (system scheme).Run {} actions finish) :
    ((system scheme).restrict (Guarded scheme)).Run {} actions finish ↔
      ¬(system scheme).Visits {} actions finish (State.Missed scheme) := by
  refine TransitionSystem.Visits.restrict_iff_not ?_ ?_ (.init rfl) ?_ run
  · rintro state action next other ⟨-, rfl⟩ ⟨-, rfl⟩
    rfl
  · exact fun _ _ _ reachable noticed step => guarded_iff injective reachable noticed step
  · simp [State.Missed]

end

namespace Demo

/-- Hashes that cannot collide: a hash is all that went into it. -/
def scheme : Scheme (List Record) where
  genesis := []
  entryHash previous record := record :: previous

theorem scheme_injective : Function.Injective2 scheme.entryHash := by
  rintro previous other record content same
  obtain ⟨rfl, rfl⟩ := List.cons.inj same
  exact ⟨rfl, rfl⟩

def presented : EventArgs where
  entityType := "identity"
  entityId := "kid_1"
  event := "card_presented"

def record (entryId : String) : Action (List Record) := .recordEvent presented entryId 0

/-- The ledger after one event. -/
def recorded : State (List Record) := after scheme {} (record "tle_1")

/-- The event is deleted, and another one recorded. -/
def deleted : State (List Record) := after scheme (recorded.edit []) (record "tle_2")

/-- The reason of the event is changed. -/
def forged : Ledger (List Record) :=
  recorded.ledger.map fun entry => { entry with content := { entry.content with reason := "forged" } }

theorem recorded_run : (system scheme).Run {} [record "tle_1"] recorded :=
  .single ⟨by rintro ledger ⟨⟩, rfl⟩

theorem deleted_run :
    (system scheme).Run {} [record "tle_1", .edit [], record "tle_2"] deleted := by
  refine (recorded_run.snoc ⟨?_, rfl⟩).snoc ⟨by rintro ledger ⟨⟩, rfl⟩
  rintro ledger is
  obtain rfl := Action.edit.inj is
  simp [Keyless]

theorem forged_guarded_run :
    ((system scheme).restrict (Guarded scheme)).Run {} [record "tle_1", .edit forged]
      (recorded.edit forged) := by
  have only : recorded.ledger = [nextEntry scheme [] (presented.record "tle_1" 0)] := by
    decide +kernel
  have keyless : Keyless scheme.entryHash recorded.transcript forged := by
    simp only [forged, only, List.map_cons, List.map_nil, Keyless, List.mem_singleton]
    rintro _ rfl
    exact .inl ⟨_, List.mem_cons_self, rfl⟩
  have unmade : ¬Made recorded.transcript scheme.genesis forged := by
    have other : ∃ link ∈ links scheme.genesis forged, link ∉ recorded.transcript := by
      decide +kernel
    obtain ⟨link, stored, unknown⟩ := other
    exact fun made => unknown (made stored)
  have first : ((system scheme).restrict (Guarded scheme)).Run {} [record "tle_1"] recorded :=
    .single ⟨⟨by rintro ledger ⟨⟩, rfl⟩, by rintro ledger ⟨⟩, by simp⟩
  refine first.snoc ⟨⟨?_, rfl⟩, ?_, by simp [Action.appends]⟩
  · rintro ledger is
    exact Action.edit.inj is ▸ keyless
  · rintro ledger is -
    exact Action.edit.inj is ▸ unmade

end Demo

/-- An event is deleted without a trace. -/
theorem deletion_missed : Function.Injective2 Demo.scheme.entryHash ∧
    (system Demo.scheme).Run {} [Demo.record "tle_1", .edit [], Demo.record "tle_2"] Demo.deleted ∧
    Demo.deleted.tampered = true ∧
    (verifyLedgerIntegrity Demo.scheme Demo.deleted.ledger).isOk = true :=
  ⟨Demo.scheme_injective, Demo.deleted_run, by decide +kernel, by decide +kernel⟩

theorem forgery_noticed :
    ¬(system Demo.scheme).Visits {} [Demo.record "tle_1", .edit Demo.forged]
      (Demo.recorded.edit Demo.forged) (State.Missed Demo.scheme) :=
  (tampering_noticed_iff Demo.scheme_injective Demo.forged_guarded_run.of_restrict).mp
    Demo.forged_guarded_run

end TrustChain.Identity
