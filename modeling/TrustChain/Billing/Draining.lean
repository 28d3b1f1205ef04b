import TrustChain.Billing.AnchoredOnce

/-!
# What a forced anchoring drains

A call of `force_anchor` passes one batch on, and marks it. It drains the receipts of the task
exactly if the marks of this batch cover them.
-/

namespace TrustChain.Billing

open Library Function

/-- The ids under which a batch is marked. -/
def Batch.ids (batch : Batch) : List String := batch.map fun entry => entry.1.id.getD ""

/-- Every receipt that has not been anchored has its key among the ids of the next batch. -/
def SimpleMemReceiptSync.Covered (sync : SimpleMemReceiptSync) (policy : AnchoringPolicy)
    (task : TaskId) : Prop :=
  ∀ entry ∈ sync.unanchored task,
    entry.1.key entry.2 ∈ Batch.ids (sync.getUnanchoredReceipts task policy.maxBatchSize)

instance (sync : SimpleMemReceiptSync) (policy : AnchoringPolicy) (task : TaskId) :
    Decidable (sync.Covered policy task) :=
  inferInstanceAs (Decidable (∀ entry ∈ _, _))

section Drain

variable {policy : AnchoringPolicy} {world next final : World} {task : TaskId} {batch : Batch}
  {index : Nat} {now : ℚ} {action : Action} {actions : List Action} {start : SimpleMemReceiptSync}

/-- The default limit of `get_unanchored_receipts` is 100. -/
theorem getUnanchoredReceipts_eq_nil {sync : SimpleMemReceiptSync} :
    sync.getUnanchoredReceipts task 100 = [] ↔ sync.unanchored task = [] := by
  simp [SimpleMemReceiptSync.getUnanchoredReceipts, sliceTo]

/-- The receipts of the task are those of the start, and one coroutine carries the batch from
its fetch to the return. -/
structure Ongoing (start : SimpleMemReceiptSync) (task : TaskId) (batch : Batch) (index : Nat)
    (world : World) : Prop where
  receipts : world.bridge.sync.receipts task = start.receipts task
  anchored : start.anchored task ⊆ world.bridge.sync.anchored task
  stage : world.coroutines[index]? = some (.append task batch) ∨
    (∃ object, world.coroutines[index]? = some (.mark task batch object)) ∨
    world.coroutines[index]? = some .returned ∧
      batch.ids.toFinset ⊆ world.bridge.sync.anchored task

theorem Ongoing.lt_length (ongoing : Ongoing start task batch index world) :
    index < world.coroutines.length := by
  rcases ongoing.stage with stage | ⟨_, stage⟩ | ⟨stage, -⟩ <;>
    exact (List.getElem?_eq_some_iff.mp stage).1

/-- What leaves the receipts of the task and this coroutine as they are, and marks no less. -/
theorem Ongoing.of_same (ongoing : Ongoing start task batch index world)
    (receipts : next.bridge.sync.receipts task = world.bridge.sync.receipts task)
    (anchored : world.bridge.sync.anchored task ⊆ next.bridge.sync.anchored task)
    (coroutine : next.coroutines[index]? = world.coroutines[index]?) :
    Ongoing start task batch index next where
  receipts := receipts.trans ongoing.receipts
  anchored := ongoing.anchored.trans anchored
  stage := by
    rw [coroutine]
    refine ongoing.stage.imp_right (Or.imp_right ?_)
    intro ⟨stage, marked⟩
    exact ⟨stage, marked.trans anchored⟩

theorem markAnchored_anchored (sync : SimpleMemReceiptSync) (task other : TaskId)
    (ids : List String) : sync.anchored task ⊆ (sync.markAnchored other ids).anchored task := by
  by_cases same : task = other
  · subst same
    simp [SimpleMemReceiptSync.markAnchored]
  · simp [SimpleMemReceiptSync.markAnchored, update_of_ne same]

/-- Running any coroutine changes no receipts and takes no marks away. -/
theorem resume_sync (policy : AnchoringPolicy) (bridge : AnchoringBridge) (now : ℚ)
    (coroutine : Coroutine) (task : TaskId) :
    (bridge.resume policy now coroutine).1.sync.receipts task = bridge.sync.receipts task ∧
      bridge.sync.anchored task ⊆ (bridge.resume policy now coroutine).1.sync.anchored task := by
  have effect := resumed policy bridge now coroutine
  generalize (bridge.resume policy now coroutine).1 = next at effect ⊢
  generalize (bridge.resume policy now coroutine).2 = later at effect
  cases effect with
  | quietly sync =>
      rw [sync]
      exact ⟨rfl, subset_rfl⟩
  | passes _ sync =>
      rw [sync]
      exact ⟨rfl, subset_rfl⟩
  | marks _ sync =>
      rw [sync]
      exact ⟨rfl, markAnchored_anchored _ _ _ _⟩

theorem checkAndAnchor_sync (bridge : AnchoringBridge) (task : TaskId) :
    (bridge.checkAndAnchor task).1.sync = bridge.sync := stateOf_sync

/-- What resuming a coroutine does to the world. -/
theorem perform_resume (performed : perform policy world (.resume index now) = some next) :
    ∃ coroutine, world.coroutines[index]? = some coroutine ∧ coroutine ≠ .returned ∧
      next = world.advance index (world.bridge.resume policy now coroutine).1
        (world.bridge.resume policy now coroutine).2 := by
  simp only [perform] at performed
  split at performed
  · cases performed
  · cases performed
  · rename_i coroutine running there
    cases performed
    exact ⟨coroutine, there, running, rfl⟩

/-- The coroutine's own turn: nothing else is marked. -/
theorem Ongoing.turn (ongoing : Ongoing start task batch index world)
    (performed : perform policy world (.resume index now) = some next) :
    Ongoing start task batch index next ∧
      next.bridge.sync.anchored task ⊆ world.bridge.sync.anchored task ∪ batch.ids.toFinset := by
  have inside := ongoing.lt_length
  obtain ⟨coroutine, there, running, rfl⟩ := perform_resume performed
  rcases ongoing.stage with stage | ⟨object, stage⟩ | ⟨stage, -⟩ <;>
    cases there.symm.trans stage
  · refine ⟨⟨?_, ?_, .inr (.inl ⟨_, List.getElem?_set_self inside⟩)⟩, ?_⟩
    · simpa [World.advance, AnchoringBridge.resume] using ongoing.receipts
    · simpa [World.advance, AnchoringBridge.resume] using ongoing.anchored
    · simp [World.advance, AnchoringBridge.resume]
  · have marked : (world.advance index (world.bridge.resume policy now (.mark task batch object)).1
        (world.bridge.resume policy now (.mark task batch object)).2).bridge.sync.anchored task =
        world.bridge.sync.anchored task ∪ batch.ids.toFinset := update_self ..
    refine ⟨⟨ongoing.receipts, ?_, .inr (.inr ⟨List.getElem?_set_self inside, ?_⟩)⟩, ?_⟩
    · rw [marked]
      exact ongoing.anchored.trans Finset.subset_union_left
    · rw [marked]
      exact Finset.subset_union_right
    · rw [marked]
  · exact absurd rfl running

/-- Any step but one that adds a receipt to the task. -/
theorem Ongoing.step (ongoing : Ongoing start task batch index world)
    (quiet : ∀ receipt, action ≠ .addReceipt task receipt)
    (performed : perform policy world action = some next) :
    Ongoing start task batch index next := by
  have inside := ongoing.lt_length
  cases action with
  | addReceipt other receipt =>
      have apart : task ≠ other := fun same => quiet receipt (same ▸ rfl)
      cases performed
      exact ongoing.of_same (update_of_ne apart _ _) subset_rfl rfl
  | setState other state =>
      cases performed
      exact ongoing.of_same rfl subset_rfl rfl
  | checkAndAnchor other =>
      cases performed
      have same := checkAndAnchor_sync world.bridge other
      refine ongoing.of_same ?_ ?_ (List.getElem?_append_left inside)
      · exact congrArg (fun sync => sync.receipts task) same
      · exact (congrArg (fun sync => sync.anchored task) same).ge
  | forceAnchor other =>
      cases performed
      exact ongoing.of_same rfl subset_rfl (List.getElem?_append_left inside)
  | resume other now =>
      by_cases same : other = index
      · subst same
        exact (ongoing.turn performed).1
      · obtain ⟨coroutine, -, -, rfl⟩ := perform_resume performed
        obtain ⟨receipts, anchored⟩ := resume_sync policy world.bridge now coroutine task
        exact ongoing.of_same receipts anchored (List.getElem?_set_ne same)

theorem Ongoing.run (ongoing : Ongoing start task batch index world)
    (run : (anchoring policy).Run world actions final)
    (quiet : ∀ receipt, .addReceipt task receipt ∉ actions) :
    Ongoing start task batch index final := by
  induction run with
  | nil => exact ongoing
  | snoc _ step ih =>
      have earlier := ih fun receipt there => quiet receipt (List.mem_append_left _ there)
      refine earlier.step (fun receipt same => quiet receipt ?_) step
      exact same ▸ List.mem_append_right _ (List.mem_singleton_self _)

/-- The turn in which the coroutine fetches its batch. -/
theorem Ongoing.fetch (fetching : world.coroutines[index]? = some (.fetchForced task))
    (performed : perform policy world (.resume index now) = some next) :
    Ongoing world.bridge.sync task
        (world.bridge.sync.getUnanchoredReceipts task policy.maxBatchSize) index next ∧
      next.bridge.sync = world.bridge.sync := by
  have inside := (List.getElem?_eq_some_iff.mp fetching).1
  obtain ⟨coroutine, there, -, rfl⟩ := perform_resume performed
  cases there.symm.trans fetching
  refine ⟨⟨rfl, subset_rfl, ?_⟩, rfl⟩
  cases fetched : world.bridge.sync.getUnanchoredReceipts task policy.maxBatchSize with
  | nil =>
      refine .inr (.inr ⟨?_, by simp [Batch.ids]⟩)
      simp [World.advance, AnchoringBridge.resume, AnchoringBridge.fetch, fetched, doAnchor, inside]
  | cons first rest =>
      left
      simp [World.advance, AnchoringBridge.resume, AnchoringBridge.fetch, fetched, doAnchor, inside]

/-- Once the coroutine has returned, the receipts that the batch covers have been drained. -/
theorem Ongoing.drained
    (ongoing : Ongoing start task (start.getUnanchoredReceipts task policy.maxBatchSize) index
      world)
    (returned : world.coroutines[index]? = some .returned) (covered : start.Covered policy task) :
    world.bridge.sync.unanchored task = [] := by
  have marked : (Batch.ids (start.getUnanchoredReceipts task policy.maxBatchSize)).toFinset ⊆
      world.bridge.sync.anchored task := by
    rcases ongoing.stage with stage | ⟨_, stage⟩ | ⟨-, marked⟩
    · cases returned.symm.trans stage
    · cases returned.symm.trans stage
    · exact marked
  apply List.filter_eq_nil_iff.mpr
  intro entry member
  rw [SimpleMemReceiptSync.entries, ongoing.receipts] at member
  suffices entry.1.key entry.2 ∈ world.bridge.sync.anchored task by simpa using this
  by_cases before : entry.1.key entry.2 ∈ start.anchored task
  · exact ongoing.anchored before
  · exact marked (List.mem_toFinset.mpr (covered entry (mem_unanchored.mpr ⟨member, before⟩)))

theorem drained_of_covered (fetching : world.coroutines[index]? = some (.fetchForced task))
    (covered : world.bridge.sync.Covered policy task)
    (performed : perform policy world (.resume index now) = some next)
    (run : (anchoring policy).Run next actions final)
    (quiet : ∀ receipt, .addReceipt task receipt ∉ actions)
    (returned : final.coroutines[index]? = some .returned) :
    final.bridge.sync.getUnanchoredReceipts task 100 = [] := by
  have ongoing := (Ongoing.fetch fetching performed).1.run run quiet
  exact getUnanchoredReceipts_eq_nil.mpr (ongoing.drained returned covered)

/-- Alone, the coroutine marks its batch and nothing else. -/
theorem Ongoing.alone (ongoing : Ongoing start task batch index world) {times : List ℚ}
    (bound : world.bridge.sync.anchored task ⊆ start.anchored task ∪ batch.ids.toFinset)
    (run : (anchoring policy).Run world (times.map (.resume index)) final) :
    Ongoing start task batch index final ∧
      final.bridge.sync.anchored task ⊆ start.anchored task ∪ batch.ids.toFinset := by
  induction times generalizing world with
  | nil =>
      obtain rfl := run.nil_eq
      exact ⟨ongoing, bound⟩
  | cons now times ih =>
      obtain ⟨next, step, rest⟩ := run.uncons
      obtain ⟨later, marked⟩ := ongoing.turn step
      refine ih later (marked.trans (Finset.union_subset bound ?_)) rest
      exact Finset.subset_union_right

/-- A call of `force_anchor` that runs alone drains the receipts exactly if its batch covers
them. -/
theorem drained_iff {times : List ℚ}
    (run : (anchoring policy).Run world
      (.forceAnchor task :: times.map (.resume world.coroutines.length)) final)
    (returned : final.coroutines[world.coroutines.length]? = some .returned) :
    final.bridge.sync.getUnanchoredReceipts task 100 = [] ↔
      world.bridge.sync.Covered policy task := by
  obtain ⟨called, call, run⟩ := run.uncons
  have calling : world.start world.bridge (.fetchForced task) = called := Option.some.inj call
  have fetching : called.coroutines[world.coroutines.length]? = some (.fetchForced task) := by
    simp [← calling, World.start]
  have sync : called.bridge.sync = world.bridge.sync := by rw [← calling]; rfl
  cases times with
  | nil =>
      obtain rfl := run.nil_eq
      cases returned.symm.trans fetching
  | cons now times =>
      obtain ⟨next, step, run⟩ := run.uncons
      obtain ⟨ongoing, unmarked⟩ := Ongoing.fetch fetching step
      rw [sync] at ongoing unmarked
      obtain ⟨ongoing, bound⟩ := ongoing.alone (unmarked ▸ Finset.subset_union_left) run
      rw [getUnanchoredReceipts_eq_nil]
      constructor
      · intro drained entry pending
        obtain ⟨member, unanchored⟩ := mem_unanchored.mp pending
        rw [SimpleMemReceiptSync.entries, ← ongoing.receipts] at member
        have anchored : entry.1.key entry.2 ∈ final.bridge.sync.anchored task := by
          simpa using List.filter_eq_nil_iff.mp drained entry member
        rcases Finset.mem_union.mp (bound anchored) with before | now
        · exact absurd before unanchored
        · exact List.mem_toFinset.mp now
      · intro covered
        exact ongoing.drained returned covered

end Drain

end TrustChain.Billing
