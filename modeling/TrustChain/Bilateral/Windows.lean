import TrustChain.Bilateral.Lifecycle

/-!
# The dispute window

Submitting a settlement announces when it can be finalized, but both deadlines are
computed from the window in force when they are checked. The announcement is kept
exactly as long as no window is set that would end before it, or past the last timestamp.
-/

namespace TrustChain.Bilateral

open Library Function Storage

/-! ## Who writes the configuration -/

theorem configure_eq_ok {deployment : Deployment} {sender : Address} {check : Except Error Unit}
    {config : Config} {event : Event} {written : Config × Event} :
    configure deployment sender check config event = .ok written ↔
      sender = deployment.admin ∧ check = .ok () ∧ written = (config, event) := by
  simp only [configure, bind_eq_ok, require_eq_ok, Except.ok.injEq, eq_comm (a := written)]
  constructor
  · rintro ⟨_, admin, _, checked, same⟩
    exact ⟨admin, checked, same⟩
  · rintro ⟨admin, checked, same⟩
    exact ⟨(), admin, (), checked, same⟩

/-- The optimistic window and the gateway are written by one setter each, for the
administrator only. -/
theorem runSetter_writes {deployment : Deployment} {sender : Address} {storage : Storage}
    {setter : Setter} {config : Config} {event : Event}
    (ran : runSetter deployment sender storage setter = .ok (config, event)) :
    (config.disputeWindow = storage.config.disputeWindow ∨
      sender = deployment.admin ∧ setter = .setOptimisticDisputeWindow config.disputeWindow) ∧
    (config.attestationGateway = storage.config.attestationGateway ∨
      sender = deployment.admin ∧ setter = .setAttestationGateway config.attestationGateway) := by
  cases setter with
  | setOptimisticDisputeWindow seconds =>
      obtain ⟨admin, -, same⟩ := configure_eq_ok.mp ran
      cases same
      exact ⟨.inr ⟨admin, rfl⟩, .inl rfl⟩
  | setAttestationGateway gateway =>
      obtain ⟨admin, -, same⟩ := configure_eq_ok.mp ran
      cases same
      exact ⟨.inl rfl, .inr ⟨admin, rfl⟩⟩
  | setBindingDeveloper bindingId developer =>
      simp only [runSetter, setBindingDeveloper, require_bind_eq_ok, Except.ok.injEq,
        Prod.mk.injEq] at ran
      obtain ⟨-, -, -, rfl, -⟩ := ran
      exact ⟨.inl rfl, .inl rfl⟩
  | _ =>
      obtain ⟨-, -, same⟩ := configure_eq_ok.mp ran
      cases same
      exact ⟨.inl rfl, .inl rfl⟩

section Steps

variable {deployment : Deployment} {world next : World} {action : Action deployment}

/-- Whether the setter is run during an action, by the administrator itself or while the
fee bridge is being called. -/
def Action.Sets (setter : Setter) (action : Action deployment) : Prop :=
  match action with
  | .call _ ext made =>
      made = .setter setter ∨ Reentry.setter deployment.admin setter ∈ ext.reentries
  | .token _ _ => False

theorem Reconfigured.writes {reentries : List Reentry} {storage : Storage} {config : Config}
    (reconfigured : Reconfigured deployment reentries storage config) :
    (config.disputeWindow = storage.config.disputeWindow ∨
      Reentry.setter deployment.admin (.setOptimisticDisputeWindow config.disputeWindow) ∈
        reentries) ∧
    (config.attestationGateway = storage.config.attestationGateway ∨
      Reentry.setter deployment.admin (.setAttestationGateway config.attestationGateway) ∈
        reentries) := by
  induction reconfigured with
  | refl => exact ⟨.inl rfl, .inl rfl⟩
  | setter earlier member ran ih =>
      obtain ⟨window, gateway⟩ := runSetter_writes ran
      constructor
      · rcases window with same | ⟨rfl, rfl⟩
        · rw [same]; exact ih.1
        · exact .inr member
      · rcases gateway with same | ⟨rfl, rfl⟩
        · rw [same]; exact ih.2
        · exact .inr member

theorem Change.writes {ext : Externals} {msg : Message deployment} {storage after : Storage}
    {call : Call} {calls : List TokenCall}
    (change : Change deployment ext msg storage call after calls) :
    (after.config.disputeWindow = storage.config.disputeWindow ∨
      (Action.call msg ext call).Sets (.setOptimisticDisputeWindow after.config.disputeWindow)) ∧
    (after.config.attestationGateway = storage.config.attestationGateway ∨
      (Action.call msg ext call).Sets (.setAttestationGateway after.config.attestationGateway)) := by
  cases change with
  | configured setter config event ran =>
      obtain ⟨window, gateway⟩ := runSetter_writes ran
      constructor
      · rcases window with same | ⟨-, rfl⟩
        · exact .inl same
        · exact .inr (.inl rfl)
      · rcases gateway with same | ⟨-, rfl⟩
        · exact .inl same
        · exact .inr (.inl rfl)
  | paid call bindingId payout calls config opened entitled retirable disbursed reconfigured =>
      obtain ⟨arbitrations, same⟩ := conclude_eq storage bindingId
      rw [same] at reconfigured
      obtain ⟨window, gateway⟩ := reconfigured.writes
      exact ⟨window.imp_right .inr, gateway.imp_right .inr⟩
  | _ => exact ⟨.inl rfl, .inl rfl⟩

/-- A step leaves the optimistic window and the gateway alone, or sets them. -/
theorem step_writes (reachable : (system deployment).Reachable world)
    (step : (system deployment).Step world action next) :
    (next.storage.config.disputeWindow = world.storage.config.disputeWindow ∨
      action.Sets (.setOptimisticDisputeWindow next.storage.config.disputeWindow)) ∧
    (next.storage.config.attestationGateway = world.storage.config.attestationGateway ∨
      action.Sets (.setAttestationGateway next.storage.config.attestationGateway)) := by
  cases reachable_happened reachable step with
  | token token operation ledger foreign ran => exact ⟨.inl rfl, .inl rfl⟩
  | call msg ext call calls next later effect => exact effect.change.writes

end Steps

/-! ## The announced window -/

section Announced

variable {deployment : Deployment} {world next : World} {action : Action deployment}
  {actions : List (Action deployment)} {bindingId : Nat}

/-- No window is set by this action that would bring an announced end forward, or push
the deadline past the last timestamp. -/
def KeepsWindow (submittedAt window : Nat) : Action deployment → Prop
  | .call msg ext call => ∀ seconds,
      (Action.call msg ext call).Sets (.setOptimisticDisputeWindow seconds) →
      submittedAt + seconds < wordSize ∧
        (window ≤ seconds ∨ submittedAt + window ≤ msg.timestamp)
  | .token _ _ => True

/-- A settlement submitted at `submittedAt` under `window` can still be disputed and
finalized as announced. -/
structure Announced (world : World) (bindingId submittedAt window : Nat) : Prop where
  opened : world.storage.Opened bindingId
  moved : (world.storage.bindings bindingId).state ≠ .active ∧
    (world.storage.bindings bindingId).state ≠ .pending
  submittedAt_eq : (world.storage.bindings bindingId).state = .finalizing →
    (world.storage.bindings bindingId).settleSubmittedAt = submittedAt
  fits : submittedAt + world.storage.config.disputeWindow < wordSize
  kept : window ≤ world.storage.config.disputeWindow ∨ submittedAt + window ≤ world.now

variable (reachable : (system deployment).Reachable world) {msg : Message deployment}

include reachable

/-- Submitting a settlement announces it. -/
theorem settle_announced {ext : Externals} {proofHash : Bytes32}
    (step : (system deployment).Step world (.call msg ext (.settle bindingId proofHash)) next)
    (finalizing : (next.storage.bindings bindingId).state = .finalizing) :
    Announced next bindingId msg.timestamp world.storage.config.disputeWindow := by
  cases reachable_happened reachable step with
  | call _ _ _ calls next later effect =>
      obtain ⟨change, around, -⟩ := effect
      generalize after : next.storage = storage at change finalizing
      cases change with
      | bound _ terms state binds => cases binds
      | submitted _ _ opened started unattested party fits =>
          refine ⟨?_, ?_, ?_, ?_, ?_⟩
          · rw [after]
            simpa [Storage.Opened, Storage.setBinding] using opened
          · rw [after]
            simp [Storage.setBinding]
          · rw [after]
            simp [Storage.setBinding]
          · rw [after]
            exact fits
          · rw [after]
            exact .inl le_rfl
      | paid _ _ payout _ config opened entitled =>
          cases entitled with
          | attested =>
              simp [Storage.close, Storage.retire, Storage.setBinding, Payout.mark] at finalizing

theorem step_announced {submittedAt window : Nat}
    (announced : Announced world bindingId submittedAt window)
    (step : (system deployment).Step world action next)
    (keeps : KeepsWindow submittedAt window action) :
    Announced next bindingId submittedAt window := by
  obtain ⟨opened, ⟨inactive, unpending⟩, submittedAt_eq, fits, kept⟩ := announced
  have opened' := (step_binding reachable step opened).opened
  have writes := (step_writes reachable step).1
  cases step_fate reachable step bindingId with
  | token token operation ledger =>
      exact ⟨opened, ⟨inactive, unpending⟩, submittedAt_eq, fits, kept⟩
  | call msg ext call calls own dossier next later now_eq tokenCalls_eq owned dossier_eq fate =>
      have window_ok : submittedAt + next.storage.config.disputeWindow < wordSize ∧
          (window ≤ next.storage.config.disputeWindow ∨ submittedAt + window ≤ next.now) := by
        rcases writes with same | sets
        · rw [same, now_eq]
          exact ⟨fits, kept.imp_right fun passed => passed.trans later⟩
        · rw [now_eq]
          exact keeps _ sets
      have binding_eq : next.storage.bindings bindingId = dossier.binding :=
        congrArg Dossier.binding dossier_eq
      suffices moved : (dossier.binding.state ≠ .active ∧ dossier.binding.state ≠ .pending) ∧
          (dossier.binding.state = .finalizing →
            dossier.binding.settleSubmittedAt = submittedAt) by
        rw [← binding_eq] at moved
        exact ⟨opened', moved.1, moved.2, window_ok.1, window_ok.2⟩
      cases fate with
      | kept => exact ⟨⟨inactive, unpending⟩, submittedAt_eq⟩
      | opened call terms state unopened => exact absurd opened unopened
      | submitted proofHash _ started =>
          rcases started with active | pending
          · exact absurd active inactive
          · exact absurd pending unpending
      | disputed => simp
      | evidence => exact ⟨⟨inactive, unpending⟩, submittedAt_eq⟩
      | paid call payout => cases payout <;> simp [Payout.mark]

/-- Along every run that keeps the window the announcement stands. -/
theorem run_announced {submittedAt window : Nat}
    (announced : Announced world bindingId submittedAt window)
    (run : ((system deployment).restrict fun _ action =>
      KeepsWindow submittedAt window action).Run world actions next) :
    Announced next bindingId submittedAt window := by
  refine run.preserves_restricted (fun state action next earlier before step keeps => ?_)
    reachable announced
  exact step_announced earlier before step keeps

/-- When a dispute of a pending settlement succeeds. -/
theorem dispute_enabled_iff {ext : Externals} {evidenceHash : Bytes32}
    (later : world.now ≤ msg.timestamp) (opened : world.storage.Opened bindingId)
    (finalizing : (world.storage.bindings bindingId).state = .finalizing)
    (buyer : msg.sender = world.storage.buyerOwner bindingId) :
    (∃ next, (system deployment).Step world (.call msg ext (.dispute bindingId evidenceHash)) next) ↔
      (world.storage.bindings bindingId).settleSubmittedAt + world.storage.config.disputeWindow <
        wordSize ∧
      msg.timestamp < (world.storage.bindings bindingId).settleSubmittedAt +
        world.storage.config.disputeWindow := by
  have unlocked := reachable_unlocked reachable
  simp only [step_call, exec, dispatch, dispute, bind_eq_ok, enter_eq_ok, requireBinding_eq_ok,
    require_eq_ok, checkedAdd_eq_ok]
  constructor
  · rintro ⟨next, -, _, ⟨-, rfl⟩, _, ⟨-, rfl⟩, _, -, _, ⟨fits, rfl⟩, _, early, -⟩
    exact ⟨fits, early⟩
  · rintro ⟨fits, early⟩
    exact ⟨_, later, _, ⟨by simp [unlocked], rfl⟩, _, ⟨opened, rfl⟩, (), finalizing, _, ⟨fits, rfl⟩,
      (), early, (), buyer, rfl⟩

omit reachable

/-- The window checks of `finalizeSettle` pass once the window in force is over. -/
theorem finalizable_iff (opened : world.storage.Opened bindingId)
    (finalizing : (world.storage.bindings bindingId).state = .finalizing) :
    (∃ b, requireFinalizable deployment msg world bindingId = .ok b) ↔
      (world.storage.bindings bindingId).settleSubmittedAt + world.storage.config.disputeWindow <
        wordSize ∧
      (world.storage.bindings bindingId).settleSubmittedAt + world.storage.config.disputeWindow ≤
        msg.timestamp := by
  simp only [requireFinalizable_eq_ok]
  constructor
  · rintro ⟨b, -, -, fits, closed, -⟩
    exact ⟨fits, closed⟩
  · rintro ⟨fits, closed⟩
    exact ⟨_, opened, finalizing, fits, closed, rfl⟩

theorem finalizeSettle_finalizable {ext : Externals}
    (step : (system deployment).Step world (.call msg ext (.finalizeSettle bindingId)) next) :
    ∃ b, requireFinalizable deployment msg world bindingId = .ok b := by
  simp only [step_call, exec, dispatch, finalizeSettle, bind_eq_ok, enter_eq_ok] at step
  obtain ⟨-, _, ⟨-, rfl⟩, b, finalizable, -⟩ := step
  exact ⟨b, finalizable⟩

/-- After a settlement is submitted, and as long as no window is set that cuts the announced
one short, nobody finalizes it before the announced time, the buyer can dispute it until
then, and at every time exactly one of the two is open. -/
theorem window_kept {submission : Message deployment} {ext : Externals} {proofHash : Bytes32}
    {submitted : World} (reachable : (system deployment).Reachable world)
    (settled : (system deployment).Step world
      (.call submission ext (.settle bindingId proofHash)) submitted)
    (submittedFinalizing : (submitted.storage.bindings bindingId).state = .finalizing)
    (run : ((system deployment).restrict fun _ action =>
      KeepsWindow submission.timestamp world.storage.config.disputeWindow action).Run
        submitted actions next)
    (finalizing : (next.storage.bindings bindingId).state = .finalizing) :
    (∀ msg ext last,
      (system deployment).Step next (.call msg ext (.finalizeSettle bindingId)) last →
      submission.timestamp + world.storage.config.disputeWindow ≤ msg.timestamp) ∧
    (∀ msg ext evidenceHash, msg.sender = next.storage.buyerOwner bindingId →
      next.now ≤ msg.timestamp →
      msg.timestamp < submission.timestamp + world.storage.config.disputeWindow →
      ∃ last, (system deployment).Step next (.call msg ext (.dispute bindingId evidenceHash)) last) ∧
    (∀ (buyer anyone : Message deployment) (ext : Externals) (evidenceHash : Bytes32),
      buyer.sender = next.storage.buyerOwner bindingId → next.now ≤ buyer.timestamp →
      anyone.timestamp = buyer.timestamp →
      ((∃ last,
          (system deployment).Step next (.call buyer ext (.dispute bindingId evidenceHash)) last) ↔
        ¬∃ b, requireFinalizable deployment anyone next bindingId = .ok b)) := by
  have submittedReachable := reachable.step settled
  have announced := run_announced submittedReachable
    (settle_announced reachable settled submittedFinalizing) run
  have nextReachable := submittedReachable.run run.of_restrict
  obtain ⟨opened, -, submittedAt_eq, fits, kept⟩ := announced
  have submittedAt := submittedAt_eq finalizing
  refine ⟨?_, ?_, ?_⟩
  · intro msg ext last step
    have later := (step_call.mp step).1
    obtain ⟨-, closed⟩ := (finalizable_iff opened finalizing).mp (finalizeSettle_finalizable step)
    rw [submittedAt] at closed
    omega
  · intro msg ext evidenceHash buyer later early
    rw [dispute_enabled_iff nextReachable later opened finalizing buyer, submittedAt]
    omega
  · intro buyer anyone ext evidenceHash owner later sameTime
    rw [dispute_enabled_iff nextReachable later opened finalizing owner,
      finalizable_iff opened finalizing, submittedAt, sameTime]
    omega

end Announced

namespace Demo

/-- The administrator shortens the window to a second while a settlement is pending. -/
def shortened : Scene :=
  submitted.next (call admin 2801 (.setter (.setOptimisticDisputeWindow 1))) (by decide +kernel)

end Demo

/-- A settlement submitted at 2800 under a window of a day is finalized at 2801. -/
theorem window_shortened :
    (system Demo.deployment).Reachable Demo.bound.world ∧
    (system Demo.deployment).Step Demo.bound.world (Demo.call Demo.buyer 2800 (.settle 1 9))
      Demo.submitted.world ∧
    (Demo.submitted.world.storage.bindings 1).state = .finalizing ∧
    (system Demo.deployment).Step Demo.submitted.world
      (Demo.call Demo.admin 2801 (.setter (.setOptimisticDisputeWindow 1))) Demo.shortened.world ∧
    (∃ next, (system Demo.deployment).Step Demo.shortened.world
      (Demo.call Demo.agent 2801 (.finalizeSettle 1)) next) ∧
    2801 < 2800 + Demo.bound.world.storage.config.disputeWindow :=
  ⟨Demo.bound.reachable, Demo.bound.step _ _, by decide +kernel, Demo.submitted.step _ _,
    ⟨_, Demo.shortened.step _ (by decide +kernel)⟩, by decide +kernel⟩

theorem window_kept_demo : ∃ last,
    (system Demo.deployment).Step Demo.bridged.world
      (Demo.call Demo.buyer 89199 (.dispute 1 8)) last := by
  have keeps : KeepsWindow 2800 86400
      (Demo.call Demo.admin 3000 (.setter (.setFeeBridge Demo.bridge))) := by
    intro seconds sets
    simp [Action.Sets] at sets
  have settled : (system Demo.deployment).Step Demo.bound.world
      (Demo.call Demo.buyer 2800 (.settle 1 9)) Demo.submitted.world := Demo.bound.step _ _
  have run : ((system Demo.deployment).restrict fun _ action => KeepsWindow 2800 86400 action).Run
      Demo.submitted.world _ Demo.bridged.world := .snoc .nil ⟨Demo.submitted.step _ _, keeps⟩
  exact (window_kept Demo.bound.reachable settled (by decide +kernel) run (by decide +kernel)).2.1
    _ _ _ (by decide +kernel) (by decide +kernel) (by decide +kernel)

end TrustChain.Bilateral
