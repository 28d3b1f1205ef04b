import TrustChain.Bilateral.Lifecycle
import TrustChain.OnchainStatus.Worker

/-!
# How far the database mirrors the chain

The labels that reconciling leaves alone say that a binding is settled or refunded, and a binding
never leaves these states. So a label stays right once it is right; what goes wrong is a release
that failed, a refund of a bill that is not the binding's, and a binding without any label.
-/

namespace TrustChain.OnchainStatus

open Library

section Mirrored

variable {deployment : Bilateral.Deployment} {chain after : Bilateral.World}

/-! ## The chain -/

/-- Bindings that are settled or refunded stay so. -/
def Forward (before after : Bilateral.World) : Prop :=
  ∀ bindingId, (before.storage.bindings bindingId).state = .settled ∨
    (before.storage.bindings bindingId).state = .refunded →
    (after.storage.bindings bindingId).state = (before.storage.bindings bindingId).state

theorem Forward.refl (chain : Bilateral.World) : Forward chain chain := fun _ _ => rfl

theorem Forward.trans {first second third : Bilateral.World} (forward : Forward first second)
    (further : Forward second third) : Forward first third := by
  intro bindingId terminal
  have same := forward bindingId terminal
  rw [further bindingId (same.symm ▸ terminal), same]

theorem step_forward {chain next : Bilateral.World} {action : Bilateral.Action deployment}
    (reachable : (Bilateral.system deployment).Reachable chain)
    (step : (Bilateral.system deployment).Step chain action next) : Forward chain next := by
  intro bindingId terminal
  have valid := Bilateral.reachable_valid reachable
  have opened : chain.storage.Opened bindingId := by
    by_contra unopened
    have blank := valid.wellFormed.bindings.outside bindingId
      (unopened ∘ (Bilateral.Storage.opened_iff valid.wellFormed).mpr)
    rw [blank] at terminal
    simp at terminal
  have closed : (chain.storage.bindings bindingId).state.live = false := by
    rcases terminal with state | state <;> rw [state] <;> rfl
  cases Bilateral.step_fate reachable step bindingId with
  | token => rfl
  | call msg ext call calls own dossier next _ _ _ _ same fate =>
      have kept := congrArg (·.binding.state) (same.trans (fate.of_closed opened closed).1)
      exact kept

/-- A refund that goes through leaves its binding refunded. -/
theorem refundOnTimeout_refunded {chain next : Bilateral.World}
    {msg : Bilateral.Message deployment} {ext : Bilateral.Externals} {bindingId : Nat}
    (reachable : (Bilateral.system deployment).Reachable chain)
    (step : (Bilateral.system deployment).Step chain
      (.call msg ext (.refundOnTimeout bindingId)) next) :
    (next.storage.bindings bindingId).state = .refunded := by
  cases Bilateral.step_fate reachable step bindingId with
  | call _ _ _ calls own dossier next _ _ _ _ same fate =>
      have state : (next.storage.bindings bindingId).state = dossier.binding.state :=
        congrArg (·.binding.state) same
      rw [state]
      cases fate with
      | kept _ unnamed => exact absurd rfl unnamed
      | opened _ _ _ _ binds => exact absurd binds.unnamed (by simp [Bilateral.Call.binding])
      | paid _ payout _ _ entitled =>
          cases entitled
          rfl

/-- Where a transaction leaves the chain, and what its result says. -/
theorem sendTx_cases {sending : Sending deployment} {call : Bilateral.Call}
    {result : Option ChainTxResult} (sent : sendTx sending call chain = some (after, result)) :
    (after = chain ∨ (Bilateral.system deployment).Step chain
        (.call sending.msg sending.ext call) after) ∧
      ∀ tx, result = some tx → tx.call = call ∧ sending.outcome = .mined tx.status ∧
        (tx.status = .confirmed → (Bilateral.system deployment).Step chain
          (.call sending.msg sending.ext call) after) := by
  unfold sendTx at sent
  split at sent
  · obtain ⟨rfl, rfl⟩ : chain = after ∧ none = result := by simpa using sent
    exact ⟨.inl rfl, by simp⟩
  · obtain ⟨next, performed, rfl, rfl⟩ : ∃ next, _ = some next ∧ next = after ∧ none = result := by
      simpa using sent
    exact ⟨.inr performed, by simp⟩
  · next outcome =>
      obtain ⟨next, performed, rfl, rfl⟩ : ∃ next, _ = some next ∧ next = after ∧
        some _ = result := by simpa using sent
      refine ⟨.inr performed, ?_⟩
      rintro _ ⟨rfl⟩
      exact ⟨rfl, outcome, fun _ => performed⟩
  · next outcome =>
      obtain ⟨rfl, rfl⟩ : chain = after ∧ some _ = result := by simpa using sent
      refine ⟨.inl rfl, ?_⟩
      rintro _ ⟨rfl⟩
      exact ⟨rfl, outcome, by simp⟩

/-- The chain moves on by steps of the contract. -/
def Advances (deployment : Bilateral.Deployment) (before after : Bilateral.World) : Prop :=
  (Bilateral.system deployment).Reachable after ∧ Forward before after

theorem advances_step {chain next : Bilateral.World} {action : Bilateral.Action deployment}
    (reachable : (Bilateral.system deployment).Reachable chain)
    (step : (Bilateral.system deployment).Step chain action next) :
    Advances deployment chain next :=
  ⟨reachable.step step, step_forward reachable step⟩

theorem sendTx_advances {sending : Sending deployment} {call : Bilateral.Call}
    {result : Option ChainTxResult} (reachable : (Bilateral.system deployment).Reachable chain)
    (sent : sendTx sending call chain = some (after, result)) :
    Advances deployment chain after := by
  rcases (sendTx_cases sent).1 with rfl | step
  · exact ⟨reachable, .refl _⟩
  · exact advances_step reachable step

theorem finalizeBinding_advances {now bindingId : Nat} {attempt : Attempt deployment}
    {before after : Bilateral.World × Nat}
    (reachable : (Bilateral.system deployment).Reachable before.1)
    (finalized : finalizeBinding now attempt bindingId before = some after) :
    Advances deployment before.1 after.1 := by
  unfold finalizeBinding at finalized
  dsimp only at finalized
  split at finalized
  · simp only [Option.bind_eq_bind, Option.bind_eq_some_iff, Option.some.injEq] at finalized
    obtain ⟨⟨chain, result⟩, sent, rfl⟩ := finalized
    exact sendTx_advances reachable sent
  · obtain rfl : before = after := by simpa using finalized
    exact ⟨reachable, .refl _⟩

theorem finalizeDueBindings_advances {world next : World} {now finalized : Nat}
    {attempts : Nat → Attempt deployment}
    (reachable : (Bilateral.system deployment).Reachable world.chain)
    (done : finalizeDueBindings world now attempts = some (next, finalized)) :
    ∃ chain, Advances deployment world.chain chain ∧ next = { world with chain } := by
  have loop : ∀ (bindings : List (Nat × Nat)) (before after : Bilateral.World × Nat),
      (Bilateral.system deployment).Reachable before.1 →
      bindings.foldlM (fun state bindingId =>
        finalizeBinding now (attempts bindingId.2) bindingId.1 state) before = some after →
      Advances deployment before.1 after.1 := by
    intro bindings
    induction bindings with
    | nil =>
        intro before after reachable passed
        obtain rfl : before = after := by simpa using passed
        exact ⟨reachable, .refl _⟩
    | cons first rest ih =>
        intro before after reachable passed
        rw [List.foldlM_cons] at passed
        obtain ⟨middle, one, others⟩ := Option.bind_eq_some_iff.mp passed
        have advanced := finalizeBinding_advances reachable one
        have further := ih middle after advanced.1 others
        exact ⟨further.1, advanced.2.trans further.2⟩
  unfold finalizeDueBindings at done
  simp only [Option.bind_eq_bind, Option.bind_eq_some_iff, Option.some.injEq, Prod.mk.injEq]
    at done
  obtain ⟨⟨chain, count⟩, passed, rfl, rfl⟩ := done
  exact ⟨chain, loop _ _ _ reachable passed, rfl⟩

/-! ## What is asked of the worker -/

/-- The labels that need a confirmed transaction. -/
def Label.needsConfirmation (label : Label) : Bool :=
  label = .finalizing || label = .refunded || label = .disputed

/-- What is asked of a step: a label that needs it is written with a confirmed transaction, and a
pass of reconciling, with all its reads answered, gives every binding its label and leaves nothing
to do for a second pass. -/
structure Mirrors (world : World) (action : Action deployment) (next : World) : Prop where
  confirmed : ∀ position write row label, action = .persist position →
    world.writes[position]? = some write → next.settlements.get write.taskId = some row →
    row.onchainStatus = some label → label.needsConfirmation = true →
    ∃ tx, row.txHash = some tx ∧ tx.status = .confirmed
  labelled : ∀ reads, action = .reconcile reads → (∀ taskId, reads taskId = true) →
    ∀ taskId row bindingId, next.settlements.get taskId = some row →
      row.onchainBindingId = some bindingId →
      row.onchainStatus = some (stateLabel (next.chain.storage.bindings bindingId).state)
  stable : ∀ reads, action = .reconcile reads → (∀ taskId, reads taskId = true) →
    ∀ again, reconcileOnchainStatus next again = (next, 0)

/-- The steps in which nothing goes wrong: no release is mined with status 0, no refund of a bill
is written to a settlement with a binding, and no binding without a label is reconciled. -/
def Unaffected (world : World) : Action deployment → Prop
  | .settle _ _ _ .release sending => sending.outcome ≠ .mined .failed
  | .persist position => ∀ taskId info contract row,
      world.writes[position]? = some (.chainOrOffchainResult taskId .refunded info contract) →
      info.bindingId = none → world.settlements.get taskId = some row →
      row.onchainBindingId = none
  | .reconcile _ => ∀ taskId row, world.settlements.get taskId = some row →
      row.onchainBindingId.isSome = true → row.onchainStatus ≠ none
  | _ => True

/-! ## The invariant -/

/-- What the labels that are never read again say is true. -/
def Agrees (chain : Bilateral.World) (row : Settlement) : Prop :=
  ∀ bindingId, row.onchainBindingId = some bindingId →
    (row.onchainStatus = some .settled →
      (chain.storage.bindings bindingId).state = .settled) ∧
    (row.onchainStatus = some .refunded →
      (chain.storage.bindings bindingId).state = .refunded)

/-- What is about to be written is true. -/
def Write.Recorded (chain : Bilateral.World) : Write → Prop
  | .chainResult _ txResult onchainStatus _ =>
      onchainStatus = .finalizing ∧ txResult.status = .confirmed
  | .chainOrOffchainResult _ onchainStatus info contract =>
      onchainStatus ≠ .settled ∧
      (onchainStatus.needsConfirmation = true →
        ∃ tx, info.txHash = some tx ∧ tx.status = .confirmed) ∧
      (onchainStatus = .refunded → info.bindingId = contract.onchainBindingId ∧
        ∀ bindingId, contract.onchainBindingId = some bindingId →
          (chain.storage.bindings bindingId).state = .refunded)

structure Kept (deployment : Bilateral.Deployment) (world : World) : Prop where
  reachable : (Bilateral.system deployment).Reachable world.chain
  rows : ∀ taskId row, world.settlements.get taskId = some row → Agrees world.chain row
  writes : ∀ write ∈ world.writes, write.Recorded world.chain

theorem Agrees.forward {row : Settlement} (agrees : Agrees chain row)
    (forward : Forward chain after) : Agrees after row := by
  intro bindingId bound
  obtain ⟨settled, refunded⟩ := agrees bindingId bound
  refine ⟨fun label => ?_, fun label => ?_⟩
  · rw [forward bindingId (.inl (settled label)), settled label]
  · rw [forward bindingId (.inr (refunded label)), refunded label]

theorem Write.Recorded.forward {write : Write} (recorded : write.Recorded chain)
    (forward : Forward chain after) : write.Recorded after := by
  cases write with
  | chainResult => exact recorded
  | chainOrOffchainResult taskId onchainStatus info contract =>
      obtain ⟨unsettled, confirmed, refunded⟩ := recorded
      refine ⟨unsettled, confirmed, fun label => ?_⟩
      obtain ⟨same, done⟩ := refunded label
      refine ⟨same, fun bindingId bound => ?_⟩
      rw [forward bindingId (.inr (done bindingId bound)), done bindingId bound]

/-- The chain moves on, and a write may come to those that wait. -/
theorem Kept.advance {world : World} {chain : Bilateral.World} (kept : Kept deployment world)
    (advances : Advances deployment world.chain chain) (more : List Write)
    (recorded : ∀ write ∈ more, write.Recorded chain) :
    Kept deployment { world with chain, writes := world.writes ++ more } := by
  refine ⟨advances.1, fun taskId row there => (kept.rows taskId row there).forward advances.2, ?_⟩
  intro write member
  rcases List.mem_append.mp member with before | added
  · exact (kept.writes write before).forward advances.2
  · exact recorded write added

/-! ## Steps -/

variable {world next : World} {chain : Bilateral.World}

theorem refundPayment_eq_some {contract : TaskContract} {call : Bilateral.Call}
    {bindingId : Option Nat} (sends : refundPayment contract = some (call, bindingId)) :
    bindingId = contract.onchainBindingId ∧
      ∀ refunded, contract.onchainBindingId = some refunded → call = .refundOnTimeout refunded := by
  unfold refundPayment at sends
  split at sends
  · next bound found =>
      obtain ⟨rfl, rfl⟩ : _ = call ∧ some bound = bindingId := by simpa using sends
      refine ⟨found.symm, fun refunded same => ?_⟩
      obtain rfl : bound = refunded := Option.some.inj (found.symm.trans same)
      rfl
  · next missing _ =>
      obtain ⟨-, rfl⟩ : _ = call ∧ none = bindingId := by simpa using sends
      exact ⟨missing.symm, by simp [missing]⟩
  · cases sends

/-- A refund or a dispute, sent or noted. -/
theorem sendOrNote_kept (kept : Kept deployment world) {taskId : String} {contract : TaskContract}
    {sending : Sending deployment} {confirmed otherwise : Label}
    {errand : Option (Bilateral.Call × Option Nat)}
    (plain : otherwise.needsConfirmation = false ∧ otherwise ≠ .settled)
    (special : confirmed ≠ .settled)
    (refunds : confirmed = .refunded → ∀ call bindingId, errand = some (call, bindingId) →
      bindingId = contract.onchainBindingId ∧
        ∀ refunded, contract.onchainBindingId = some refunded → call = .refundOnTimeout refunded)
    (sent : sendOrNote world taskId contract sending confirmed otherwise errand = some next) :
    Kept deployment next := by
  have notRefunded : otherwise ≠ .refunded := fun same => by simp [same, Label.needsConfirmation] at plain
  have noted (chain : Bilateral.World) (info : Info) :
      Write.Recorded chain (.chainOrOffchainResult taskId otherwise info contract) :=
    ⟨plain.2, fun needs => absurd needs (by simp [plain.1]), fun same => absurd same notRefunded⟩
  unfold sendOrNote at sent
  split at sent
  · obtain rfl := Option.some.inj sent
    refine kept.advance ⟨kept.reachable, .refl _⟩ _ fun write member => ?_
    obtain rfl := List.mem_singleton.mp member
    exact noted _ _
  · next call bindingId =>
      simp only [Option.bind_eq_bind, Option.bind_eq_some_iff] at sent
      obtain ⟨⟨chain, result⟩, carried, written⟩ := sent
      have advances := sendTx_advances kept.reachable carried
      cases result with
      | none =>
          obtain rfl := Option.some.inj written
          simpa using kept.advance advances [] (by simp)
      | some tx =>
          obtain rfl := Option.some.inj written
          obtain ⟨called, -, landed⟩ := (sendTx_cases carried).2 tx rfl
          refine kept.advance advances _ fun write member => ?_
          obtain rfl := List.mem_singleton.mp member
          by_cases success : tx.status = .confirmed
          · rw [if_pos success]
            refine ⟨special, fun _ => ⟨tx, rfl, success⟩, fun refunded => ?_⟩
            obtain ⟨same, calls⟩ := refunds refunded call bindingId rfl
            refine ⟨same, fun bound there => ?_⟩
            have step := landed success
            rw [calls bound there] at step
            exact refundOnTimeout_refunded kept.reachable step
          · rw [if_neg success]
            exact noted _ _

theorem runOnchainSettlement_kept (kept : Kept deployment world) {taskId : String}
    {contract : TaskContract} {bundleHash : Bytes32} {sending : Sending deployment}
    {decision : Decision}
    (unaffected : Unaffected world (.settle taskId contract bundleHash decision sending))
    (ran : runOnchainSettlement world taskId contract bundleHash sending decision = some next) :
    Kept deployment next := by
  cases decision with
  | release =>
      unfold runOnchainSettlement at ran
      dsimp only at ran
      split at ran
      · obtain rfl := Option.some.inj ran
        exact kept
      · next call _ =>
          simp only [Option.bind_eq_bind, Option.bind_eq_some_iff] at ran
          obtain ⟨⟨chain, result⟩, carried, written⟩ := ran
          have advances := sendTx_advances kept.reachable carried
          cases result with
          | none =>
              obtain rfl := Option.some.inj written
              simpa using kept.advance advances [] (by simp)
          | some tx =>
              obtain rfl := Option.some.inj written
              obtain ⟨-, outcome, -⟩ := (sendTx_cases carried).2 tx rfl
              refine kept.advance advances _ fun write member => ?_
              obtain rfl := List.mem_singleton.mp member
              refine ⟨rfl, ?_⟩
              -- A release that is mined and has not failed is confirmed.
              cases status : tx.status with
              | confirmed => rfl
              | failed => exact absurd (status ▸ outcome) unaffected
  | refund | hold =>
      exact sendOrNote_kept kept (by decide) (by decide) (fun _ _ _ => refundPayment_eq_some) ran
  | dispute =>
      exact sendOrNote_kept kept (by decide) (by decide) (fun same => absurd same (by decide)) ran

/-- The row that a write leaves is right if its label is never read again. -/
theorem Write.Recorded.agrees {write : Write} {row : Settlement} (recorded : write.Recorded chain)
    (unbound : ∀ taskId info contract,
      write = .chainOrOffchainResult taskId .refunded info contract → info.bindingId = none →
      row.onchainBindingId = none) : Agrees chain (write.apply row) := by
  intro bindingId bound
  cases write with
  | chainResult taskId txResult onchainStatus contract =>
      obtain ⟨rfl, -⟩ := recorded
      simp [Write.apply, persistChainResult, TaskContract.persistHandles]
  | chainOrOffchainResult taskId onchainStatus info contract =>
      obtain ⟨unsettled, -, refunded⟩ := recorded
      refine ⟨fun label => absurd (Option.some.inj label) unsettled, fun label => ?_⟩
      obtain rfl : onchainStatus = .refunded := Option.some.inj label
      obtain ⟨same, done⟩ := refunded rfl
      change contract.onchainBindingId.or (info.bindingId.or row.onchainBindingId) =
        some bindingId at bound
      cases handle : contract.onchainBindingId with
      | none =>
          rw [handle] at same
          rw [handle, same, unbound taskId info contract rfl same] at bound
          cases bound
      | some number =>
          rw [handle] at bound
          obtain rfl : number = bindingId := Option.some.inj bound
          exact done number handle

/-- The row that a write leaves tells of a confirmed transaction if its label needs it. -/
theorem Write.Recorded.confirmed {write : Write} {row : Settlement} {label : Label}
    (recorded : write.Recorded chain) (labelled : (write.apply row).onchainStatus = some label)
    (needs : label.needsConfirmation = true) :
    ∃ tx, (write.apply row).txHash = some tx ∧ tx.status = .confirmed := by
  cases write with
  | chainResult taskId txResult onchainStatus contract => exact ⟨txResult, rfl, recorded.2⟩
  | chainOrOffchainResult taskId onchainStatus info contract =>
      obtain rfl : onchainStatus = label := Option.some.inj labelled
      obtain ⟨tx, hash, status⟩ := recorded.2.1 needs
      refine ⟨tx, ?_, status⟩
      change info.txHash.or row.txHash = some tx
      rw [hash]
      rfl

@[simp] theorem reconcileRow_onchainBindingId (chain : Bilateral.World) (read : Bool)
    (row : Settlement) :
    (reconcileRow chain read row).onchainBindingId = row.onchainBindingId := by
  unfold reconcileRow
  split
  · dsimp only
    split <;> rfl
  · rfl

theorem reconcileRow_agrees {read : Bool} {row : Settlement} (agrees : Agrees chain row) :
    Agrees chain (reconcileRow chain read row) := by
  unfold reconcileRow
  split
  · next bindingId bound =>
      dsimp only
      split
      · intro other same
        obtain rfl : bindingId = other := Option.some.inj (bound.symm.trans same)
        cases state : (chain.storage.bindings bindingId).state <;> simp [stateLabel]
      · exact agrees
  · exact agrees

/-- With an answer of the chain and a label that may be read, the label is right afterwards. -/
theorem reconcileRow_labelled {row : Settlement} {bindingId : Nat} (agrees : Agrees chain row)
    (bound : row.onchainBindingId = some bindingId) (labelled : row.onchainStatus ≠ none) :
    (reconcileRow chain true row).onchainStatus =
      some (stateLabel (chain.storage.bindings bindingId).state) := by
  obtain ⟨label, status⟩ := Option.ne_none_iff_exists'.mp labelled
  obtain ⟨settled, refunded⟩ := agrees bindingId bound
  unfold reconcileRow
  rw [bound]
  dsimp only
  split
  · rfl
  · next same =>
      by_cases selected : row.selected = true
      · simpa [selected] using same
      · have closed : label = .settled ∨ label = .refunded := by
          simpa [Settlement.selected, bound, sqlNotIn, status, or_iff_not_imp_left] using selected
        rcases closed with rfl | rfl
        · rw [status, settled status]
          rfl
        · rw [status, refunded status]
          rfl

/-- A second pass finds the label of the state, or a row that is not selected. -/
theorem reconcileRow_stable (chain : Bilateral.World) (read : Bool) (row : Settlement) :
    reconcileRow chain read (reconcileRow chain true row) = reconcileRow chain true row := by
  cases bound : row.onchainBindingId with
  | none => simp [reconcileRow, bound]
  | some bindingId =>
      obtain ⟨label, right⟩ : ∃ label, stateLabel (chain.storage.bindings bindingId).state = label :=
        ⟨_, rfl⟩
      have once : reconcileRow chain true row =
          if row.selected && row.onchainStatus ≠ some label then
            { row with onchainStatus := some label }
          else row := by
        simp [reconcileRow, bound, right]
      rw [once]
      split
      · simp [reconcileRow, bound, right]
      · next settled =>
          unfold reconcileRow
          rw [bound]
          dsimp only
          refine if_neg fun again => settled ?_
          rw [right] at again
          simp only [Bool.and_eq_true] at again ⊢
          exact ⟨again.1.1, again.2⟩

theorem reconcileOnchainStatus_stable (world : World) (reads again : String → Bool)
    (answered : ∀ taskId, reads taskId = true) :
    reconcileOnchainStatus (reconcileOnchainStatus world reads).1 again =
      ((reconcileOnchainStatus world reads).1, 0) := by
  have still : ∀ taskId row,
      (reconcileOnchainStatus world reads).1.settlements.get taskId = some row →
      reconcileRow world.chain (again taskId) row = row := by
    intro taskId row there
    simp only [reconcileOnchainStatus, OrderedTable.get_map, Option.map_eq_some_iff] at there
    obtain ⟨before, -, rfl⟩ := there
    rw [answered taskId, reconcileRow_stable]
  have same := (OrderedTable.map_congr still).trans (OrderedTable.map_id _)
  refine Prod.ext ?_ ?_
  · exact congrArg (fun settlements => (⟨world.chain, settlements, world.writes⟩ : World)) same
  · refine List.countP_eq_zero.mpr fun row member => ?_
    have left := still row.1 row.2 (OrderedTable.mem_rows_iff.mp member)
    simp only [decide_eq_true_eq, not_not]
    exact congrArg Settlement.onchainStatus left

/-! ## Runs -/

theorem step_kept {action : Action deployment} (kept : Kept deployment world)
    (unaffected : Unaffected world action) (step : perform world action = some next) :
    Kept deployment next := by
  cases action with
  | create taskId =>
      simp only [perform, Option.ite_none_left_eq_some, Option.some.injEq] at step
      obtain ⟨-, rfl⟩ := step
      refine ⟨kept.reachable, fun other row there => ?_, kept.writes⟩
      rcases OrderedTable.get_set_eq_some.mp there with ⟨-, rfl⟩ | ⟨-, there⟩
      · intro bindingId bound
        cases bound
      · exact kept.rows other row there
  | settle taskId contract bundleHash decision sending =>
      exact runOnchainSettlement_kept kept unaffected step
  | persist position =>
      obtain ⟨write, found, rfl⟩ := Option.map_eq_some_iff.mp step
      refine ⟨kept.reachable, fun taskId row there => ?_, fun other member =>
        kept.writes other (List.mem_of_mem_eraseIdx member)⟩
      rw [OrderedTable.get_modify] at there
      obtain ⟨before, stood, rfl⟩ := Option.map_eq_some_iff.mp there
      split
      · next same =>
          subst same
          refine (kept.writes write (List.mem_of_getElem? found)).agrees ?_
          rintro taskId info contract rfl unbound
          exact unaffected taskId info contract before found unbound stood
      · exact kept.rows taskId before stood
  | finalize now attempts =>
      obtain ⟨⟨after, finalized⟩, done, rfl⟩ := Option.map_eq_some_iff.mp step
      obtain ⟨chain, advances, rfl⟩ := finalizeDueBindings_advances kept.reachable done
      simpa using kept.advance advances [] (by simp)
  | reconcile reads =>
      obtain rfl := Option.some.inj step
      refine ⟨kept.reachable, fun taskId row there => ?_, kept.writes⟩
      simp only [reconcileOnchainStatus, OrderedTable.get_map, Option.map_eq_some_iff] at there
      obtain ⟨before, stood, rfl⟩ := there
      exact reconcileRow_agrees (kept.rows taskId before stood)
  | elsewhere action =>
      obtain ⟨chain, moved, rfl⟩ := Option.map_eq_some_iff.mp step
      simpa using kept.advance (advances_step kept.reachable moved) [] (by simp)

theorem reachable_kept (reachable : ((system deployment).restrict Unaffected).Reachable world) :
    Kept deployment world := by
  refine reachable.invariant (fun state initial => ?_) (fun state action next _ inv step => ?_)
  · obtain ⟨chain, writes, unlabelled⟩ := initial
    refine ⟨chain, fun taskId row there bindingId _ => ?_, by simp [writes]⟩
    simp [unlabelled taskId row there]
  · exact step_kept inv step.2 step.1

end Mirrored

namespace Demo

open Bilateral.Demo (deployment message buyer usd call)

/-- Bills 1 and 2 are bound in binding 1, and the buyer has locked 10 more in bill 3. -/
def locked : Bilateral.Demo.Scene :=
  Bilateral.Demo.bound.next (call buyer 1000 (.lock usd 10)) (by decide +kernel)

def start : World := { chain := locked.world }

/-- A settlement has binding 1 and no label. -/
def unlabelled : World :=
  { start with settlements := OrderedTable.empty.set "task-0" { onchainBindingId := some 1 } }

abbrev Scene := Library.Scene (@perform deployment) start

theorem start_init : (system deployment).Init start := by
  refine ⟨locked.reachable, rfl, fun taskId row there => ?_⟩
  cases there

def sent (status : TxStatus) : Sending deployment := ⟨message buyer 2800, {}, .mined status⟩

/-- A settlement is made for the task, and binding 1 is released for it. -/
def releasing (status : TxStatus) : List (Action deployment) :=
  [.create "task-1", .settle "task-1" ⟨some 1, none, none⟩ 9 .release (sent status)]

def failed : Scene := ⟨releasing .failed, by decide +kernel⟩

def released : Scene := ⟨releasing .confirmed, by decide +kernel⟩

/-- After the release is written, bill 3 is refunded for the task. -/
def unlocked : Scene where
  actions := releasing .confirmed ++ [.persist 0,
    .settle "task-1" ⟨none, some 3, none⟩ 9 .refund (sent .confirmed), .persist 0]
  possible := by decide +kernel

def write : Action deployment := .persist 0

def reconcile : Action deployment := .reconcile fun _ => true

def failedWritten : Scene := failed.next write (by decide +kernel)

def releasedWritten : Scene := released.next write (by decide +kernel)

def reconciled : Scene := unlocked.next reconcile (by decide +kernel)

/-- The label, the status of the transaction and the binding of a settlement. -/
def row (world : World) (taskId : String) : Option (Option Label × Option TxStatus × Option Nat) :=
  (world.settlements.get taskId).map fun row =>
    (row.onchainStatus, row.txHash.map ChainTxResult.status, row.onchainBindingId)

theorem exists_row {world : World} {taskId : String} {label : Option Label}
    {status : Option TxStatus} {bindingId : Option Nat}
    (there : row world taskId = some (label, status, bindingId)) :
    ∃ row, world.settlements.get taskId = some row ∧ row.onchainStatus = label ∧
      row.txHash.map ChainTxResult.status = status ∧ row.onchainBindingId = bindingId := by
  obtain ⟨row, found, same⟩ := Option.map_eq_some_iff.mp there
  exact ⟨row, found, congrArg (·.1) same, congrArg (·.2.1) same, congrArg (·.2.2) same⟩

theorem released_reachable :
    ((system deployment).restrict Unaffected).Reachable released.world := by
  refine ⟨start, releasing .confirmed, start_init, TransitionSystem.Run.restrict
    (released.run fun _ _ _ performed => performed) ?_⟩
  intro action member world
  rcases List.mem_cons.mp member with rfl | later
  · exact trivial
  · obtain rfl := List.mem_singleton.mp later
    exact fun same => by cases same

end Demo

end TrustChain.OnchainStatus
