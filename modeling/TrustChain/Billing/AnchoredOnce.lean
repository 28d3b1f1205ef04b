import TrustChain.Billing.Anchoring

/-!
# Receipts anchored exactly once

A receipt is fetched under the key `receipt.get("id", f"rec-{index}")` and marked under
`receipt.get("id", "")`, and it is unmarked while its batch is under way. A run anchors every
receipt once if its keys tell the receipts apart and no two batches overlap.
-/

namespace TrustChain.Billing

open Library Function

/-! ## Batches under way -/

/-- What a coroutine has passed for a task and not marked yet. -/
def Coroutine.underway (task : TaskId) : Coroutine → Batch
  | .append owner batch | .mark owner batch _ => if owner = task then batch else []
  | _ => []

/-- The task whose receipts a coroutine is about to fetch in order to anchor them. -/
def Coroutine.passing (policy : AnchoringPolicy) (bridge : AnchoringBridge) (now : ℚ) :
    Coroutine → Option TaskId
  | .fetchForced task => some task
  | .fetchChecked task index _ stateChanged =>
      if policy.due (bridge.fetch policy task).length (bridge.object index).lastAnchorTime now
          stateChanged then
        some task
      else none
  | _ => none

namespace World

variable (world : World)

def underway (task : TaskId) : Batch := world.coroutines.flatMap (Coroutine.underway task)

/-- No position is passed twice, and what no call of `get_unanchored_receipts` returns any
more has been passed. -/
def AnchoredOnce : Prop :=
  ∀ task, (world.passed task).Nodup ∧
    ∀ entry ∈ world.bridge.sync.entries task,
      (∀ limit, entry ∉ world.bridge.sync.getUnanchoredReceipts task limit) →
        entry.2 ∈ world.passed task

/-- No other batch of the task is under way, and the receipts fetched have ids that no
receipt left behind shares. -/
def Apart (policy : AnchoringPolicy) (task : TaskId) : Prop :=
  world.bridge.fetch policy task ≠ [] → world.underway task = [] ∧
    ∀ entry ∈ world.bridge.fetch policy task, entry.1.id.isSome ∧
      ∀ other ∈ world.bridge.sync.entries task,
        other.1.key other.2 = entry.1.key entry.2 → other ∈ world.bridge.fetch policy task

end World

/-- A receipt is added under a key that is neither anchored nor under way, and a batch is
passed while it stands apart. -/
def Action.Clean (policy : AnchoringPolicy) (world : World) : Action → Prop
  | .addReceipt task receipt =>
      let key := receipt.key (world.bridge.sync.receipts task).length
      key ∉ world.bridge.sync.anchored task ∧ key ∉ (world.underway task).keys
  | .resume index now =>
      ∀ coroutine ∈ world.coroutines[index]?,
        ∀ task ∈ coroutine.passing policy world.bridge now, world.Apart policy task
  | .setState .. | .checkAndAnchor _ | .forceAnchor _ => True

instance (world : World) (policy : AnchoringPolicy) (task : TaskId) :
    Decidable (world.Apart policy task) :=
  inferInstanceAs (Decidable (_ → _ ∧ _))

instance (policy : AnchoringPolicy) (world : World) : DecidablePred (Action.Clean policy world)
  | .addReceipt _ _ => inferInstanceAs (Decidable (_ ∧ _))
  | .resume index now => inferInstanceAs (Decidable (∀ coroutine ∈ world.coroutines[index]?,
      ∀ task ∈ coroutine.passing policy world.bridge now, world.Apart policy task))
  | .setState .. | .checkAndAnchor _ | .forceAnchor _ => inferInstanceAs (Decidable True)

section Lists

variable {α β : Type*} {list : List α} {index : Nat} {old new : α} {f : α → List β} {x : β}

theorem mem_flatMap_set (member : x ∈ (list.set index new).flatMap f) :
    x ∈ list.flatMap f ∨ x ∈ f new := by
  obtain ⟨a, inside, here⟩ := List.mem_flatMap.mp member
  rcases List.mem_or_eq_of_mem_set inside with kept | rfl
  · exact .inl (List.mem_flatMap.mpr ⟨a, kept, here⟩)
  · exact .inr here

theorem mem_flatMap_of_set (there : list[index]? = some old) (member : x ∈ list.flatMap f) :
    x ∈ (list.set index new).flatMap f ∨ x ∈ f old := by
  have restored : (list.set index new).set index old = list := by
    rw [List.set_set]
    obtain ⟨inside, rfl⟩ := List.getElem?_eq_some_iff.mp there
    exact List.set_getElem_self inside
  exact mem_flatMap_set (restored ▸ member)

theorem mem_flatMap_set_iff (there : list[index]? = some old) (same : f new = f old) :
    x ∈ (list.set index new).flatMap f ↔ x ∈ list.flatMap f := by
  constructor
  · intro member
    refine (mem_flatMap_set member).elim id fun here => ?_
    exact List.mem_flatMap.mpr ⟨old, List.mem_of_getElem? there, same ▸ here⟩
  · intro member
    refine (mem_flatMap_of_set there member).elim id fun here => ?_
    have inside : index < list.length := (List.getElem?_eq_some_iff.mp there).1
    exact List.mem_flatMap.mpr ⟨new, List.mem_set inside new, same ▸ here⟩

end Lists

/-! ## What one step does -/

/-- What running a coroutine to its next await does to the receipts and to the batches. -/
inductive Resumed (policy : AnchoringPolicy) (bridge : AnchoringBridge) (now : ℚ)
    (coroutine : Coroutine) : AnchoringBridge → Coroutine → Prop
  | quietly {next : AnchoringBridge} {later : Coroutine} (sync : next.sync = bridge.sync)
      (underway : ∀ task, later.underway task = coroutine.underway task)
      (call : later.call = []) : Resumed policy bridge now coroutine next later
  | passes {next : AnchoringBridge} (task : TaskId) (sync : next.sync = bridge.sync)
      (passing : coroutine.passing policy bridge now = some task)
      (underway : ∀ task, coroutine.underway task = [])
      (fetched : bridge.fetch policy task ≠ []) :
      Resumed policy bridge now coroutine next (.append task (bridge.fetch policy task))
  | marks {next : AnchoringBridge} {task : TaskId} {batch : Batch} {index : Nat}
      (marking : coroutine = .mark task batch index)
      (sync : next.sync = bridge.sync.markAnchored task
        (batch.map fun entry => entry.1.id.getD "")) :
      Resumed policy bridge now coroutine next .returned

section Resume

variable {policy : AnchoringPolicy} {bridge next : AnchoringBridge} {now : ℚ}
  {coroutine : Coroutine} {task : TaskId}

@[simp] theorem stateOf_sync : (bridge.stateOf task).1.sync = bridge.sync := by
  unfold AnchoringBridge.stateOf
  split <;> rfl

theorem Resumed.doAnchor (sync : next.sync = bridge.sync)
    (passing : coroutine.passing policy bridge now = some task)
    (underway : ∀ task, coroutine.underway task = []) :
    Resumed policy bridge now coroutine next
      (doAnchor task (bridge.fetch policy task)) := by
  by_cases nothing : bridge.fetch policy task = []
  · rw [nothing]
    exact .quietly sync (fun task => (underway task).symm) rfl
  · have passed : TrustChain.Billing.doAnchor task (bridge.fetch policy task) =
        .append task (bridge.fetch policy task) := by
      simp [TrustChain.Billing.doAnchor, nothing]
    rw [passed]
    exact .passes task sync passing underway nothing

theorem resumed (policy : AnchoringPolicy) (bridge : AnchoringBridge) (now : ℚ)
    (coroutine : Coroutine) :
    Resumed policy bridge now coroutine (bridge.resume policy now coroutine).1
      (bridge.resume policy now coroutine).2 := by
  cases coroutine with
  | readState task index =>
      simp only [AnchoringBridge.resume]
      split
      · exact .quietly rfl (fun _ => rfl) rfl
      · exact .quietly rfl (fun _ => rfl) rfl
  | fetchChecked task index currentState stateChanged =>
      simp only [AnchoringBridge.resume]
      split
      case isTrue due =>
        exact Resumed.doAnchor rfl (by rw [Coroutine.passing, if_pos due]) fun _ => rfl
      case isFalse => exact .quietly rfl (fun _ => rfl) rfl
  | fetchForced task => exact Resumed.doAnchor rfl rfl fun _ => rfl
  | append task batch => exact .quietly stateOf_sync (fun _ => rfl) rfl
  | mark task batch index => exact .marks rfl rfl
  | returned => exact .quietly rfl (fun _ => rfl) rfl

end Resume

/-! ## The invariant -/

/-- The positions passed for a task are those anchored and those under way, and a position
shares its key with none that has not been passed. -/
structure World.Sound (world : World) (task : TaskId) : Prop where
  nodup : (world.passed task).Nodup
  settled : ∀ position ∈ world.passed task,
    ∃ receipt, (receipt, position) ∈ world.bridge.sync.entries task ∧
      (receipt.key position ∈ world.bridge.sync.anchored task ∨
        (receipt, position) ∈ world.underway task)
  anchored : ∀ entry ∈ world.bridge.sync.entries task,
    entry.1.key entry.2 ∈ world.bridge.sync.anchored task → entry.2 ∈ world.passed task
  underway : ∀ entry ∈ world.underway task, entry.1.id.isSome ∧
    ∀ other ∈ world.bridge.sync.entries task,
      other.1.key other.2 = entry.1.key entry.2 → other.2 ∈ world.passed task

section Entries

variable {sync : SimpleMemReceiptSync} {task : TaskId} {entry other : Receipt × Nat}

theorem entry_eq (member : entry ∈ sync.entries task) (also : other ∈ sync.entries task)
    (same : entry.2 = other.2) : entry = other := by
  rw [SimpleMemReceiptSync.entries, List.mem_zipIdx_iff_getElem?] at member also
  rw [same] at member
  exact Prod.ext (Option.some.inj (member.symm.trans also)) same

theorem entries_nodup (sync : SimpleMemReceiptSync) (task : TaskId) :
    (sync.entries task).positions.Nodup := by
  rw [Batch.positions, SimpleMemReceiptSync.entries, List.zipIdx_map_snd]
  exact List.nodup_range'

theorem mem_entries_addReceipt {receipt : Receipt} :
    entry ∈ (sync.addReceipt task receipt).entries task ↔
      entry ∈ sync.entries task ∨ entry = (receipt, (sync.receipts task).length) := by
  simp [SimpleMemReceiptSync.entries, SimpleMemReceiptSync.addReceipt, List.zipIdx_append]

theorem sliceTo_sublist {α : Type*} (limit : Int) (list : List α) :
    (sliceTo limit list).Sublist list :=
  List.take_sublist _ _

theorem fetched_sublist (sync : SimpleMemReceiptSync) (task : TaskId) (limit : Int) :
    (sync.getUnanchoredReceipts task limit).Sublist (sync.entries task) :=
  (sliceTo_sublist _ _).trans List.filter_sublist

theorem mem_unanchored : entry ∈ sync.unanchored task ↔
    entry ∈ sync.entries task ∧ entry.1.key entry.2 ∉ sync.anchored task := by
  simp [SimpleMemReceiptSync.unanchored]

theorem fetched_unanchored {limit : Int}
    (member : entry ∈ sync.getUnanchoredReceipts task limit) :
    entry ∈ sync.entries task ∧ entry.1.key entry.2 ∉ sync.anchored task :=
  mem_unanchored.mp ((sliceTo_sublist _ _).subset member)

/-- A limit as large as the list returns all that is unanchored. -/
theorem unanchored_fetched (member : entry ∈ sync.unanchored task) :
    entry ∈ sync.getUnanchoredReceipts task (sync.unanchored task).length := by
  simpa [SimpleMemReceiptSync.getUnanchoredReceipts, sliceTo] using member

theorem key_of_isSome {receipt : Receipt} (present : receipt.id.isSome) (index : Nat) :
    receipt.key index = receipt.id.getD "" := by
  obtain ⟨id, here⟩ := Option.isSome_iff_exists.mp present
  simp [Receipt.key, here]

end Entries

section Steps

variable {policy : AnchoringPolicy} {world next : World} {task : TaskId}

/-- What shows the same receipts and the same batches is as sound. -/
theorem World.Sound.of_same (sound : world.Sound task)
    (receipts : next.bridge.sync.receipts task = world.bridge.sync.receipts task)
    (anchored : next.bridge.sync.anchored task = world.bridge.sync.anchored task)
    (underway : ∀ entry, entry ∈ next.underway task ↔ entry ∈ world.underway task)
    (passed : next.passed task = world.passed task) : next.Sound task := by
  have entries : next.bridge.sync.entries task = world.bridge.sync.entries task :=
    congrArg List.zipIdx receipts
  constructor
  · exact passed ▸ sound.nodup
  · simpa only [passed, entries, anchored, underway] using sound.settled
  · simpa only [passed, entries, anchored, underway] using sound.anchored
  · simpa only [passed, entries, anchored, underway] using sound.underway

theorem World.Sound.addReceipt (sound : world.Sound task) {receipt : Receipt}
    (clean : Action.Clean policy world (.addReceipt task receipt)) :
    World.Sound { world with
      bridge := { world.bridge with sync := world.bridge.sync.addReceipt task receipt } } task where
  nodup := sound.nodup
  settled position member := by
    obtain ⟨receipt, inside, settled⟩ := sound.settled position member
    exact ⟨receipt, mem_entries_addReceipt.mpr (.inl inside), settled⟩
  anchored entry member anchored := by
    rcases mem_entries_addReceipt.mp member with earlier | rfl
    · exact sound.anchored entry earlier anchored
    · exact absurd anchored clean.1
  underway entry member := by
    refine ⟨(sound.underway entry member).1, fun other inside same => ?_⟩
    rcases mem_entries_addReceipt.mp inside with earlier | rfl
    · exact (sound.underway entry member).2 other earlier same
    · exact absurd (List.mem_map.mpr ⟨entry, member, same.symm⟩) clean.2

/-- A batch that stands apart is passed. -/
theorem World.Sound.pass (sound : world.Sound task)
    (apart : world.Apart policy task) (fetched : world.bridge.fetch policy task ≠ [])
    (sync : next.bridge.sync = world.bridge.sync)
    (underway : ∀ entry, entry ∈ next.underway task ↔ entry ∈ world.bridge.fetch policy task)
    (passed : next.passed task =
      world.passed task ++ (world.bridge.fetch policy task).positions) : next.Sound task := by
  obtain ⟨alone, distinct⟩ := apart fetched
  have settled : ∀ position ∈ world.passed task, ∃ receipt,
      (receipt, position) ∈ world.bridge.sync.entries task ∧
        receipt.key position ∈ world.bridge.sync.anchored task := by
    intro position member
    obtain ⟨receipt, inside, anchored | pending⟩ := sound.settled position member
    · exact ⟨receipt, inside, anchored⟩
    · simp [alone] at pending
  constructor
  · rw [passed]
    refine sound.nodup.append ?_ ?_
    · exact (entries_nodup _ task).sublist ((fetched_sublist _ _ _).map Prod.snd)
    · intro position before again
      obtain ⟨receipt, inside, anchored⟩ := settled position before
      obtain ⟨entry, member, rfl⟩ := List.mem_map.mp again
      obtain ⟨there, fresh⟩ := fetched_unanchored member
      have same : entry.1 = receipt := congrArg Prod.fst (entry_eq there inside rfl)
      exact fresh (same ▸ anchored)
  · intro position member
    rw [passed, List.mem_append] at member
    rw [sync]
    rcases member with before | now
    · obtain ⟨receipt, inside, anchored⟩ := settled position before
      exact ⟨receipt, inside, .inl anchored⟩
    · obtain ⟨entry, member, rfl⟩ := List.mem_map.mp now
      exact ⟨entry.1, (fetched_unanchored member).1, .inr ((underway _).mpr member)⟩
  · intro entry inside anchored
    rw [sync] at inside anchored
    rw [passed]
    exact List.mem_append_left _ (sound.anchored entry inside anchored)
  · intro entry member
    rw [underway] at member
    rw [sync, passed]
    refine ⟨(distinct entry member).1, fun other inside same => ?_⟩
    have together := (distinct entry member).2 other inside same
    exact List.mem_append_right _ (List.mem_map.mpr ⟨other, together, rfl⟩)

/-- A batch under way is marked. -/
theorem World.Sound.mark (sound : world.Sound task) {batch : Batch}
    (pending : ∀ entry ∈ batch, entry ∈ world.underway task)
    (sync : next.bridge.sync =
      world.bridge.sync.markAnchored task (batch.map fun entry => entry.1.id.getD ""))
    (still : ∀ entry ∈ next.underway task, entry ∈ world.underway task)
    (done : ∀ entry ∈ world.underway task, entry ∈ next.underway task ∨ entry ∈ batch)
    (passed : next.passed task = world.passed task) : next.Sound task := by
  have entries : next.bridge.sync.entries task = world.bridge.sync.entries task := by
    rw [sync]; rfl
  have anchored : ∀ key, key ∈ next.bridge.sync.anchored task ↔
      key ∈ world.bridge.sync.anchored task ∨ key ∈ batch.keys := by
    intro key
    have keys : batch.keys = batch.map fun entry => entry.1.id.getD "" :=
      List.map_congr_left fun entry member =>
        key_of_isSome (sound.underway entry (pending entry member)).1 entry.2
    simp [sync, SimpleMemReceiptSync.markAnchored, keys]
  constructor
  · exact passed ▸ sound.nodup
  · intro position member
    rw [passed] at member
    obtain ⟨receipt, inside, settled⟩ := sound.settled position member
    refine ⟨receipt, entries ▸ inside, ?_⟩
    rcases settled with before | waiting
    · exact .inl ((anchored _).mpr (.inl before))
    · rcases done _ waiting with still | marked
      · exact .inr still
      · exact .inl ((anchored _).mpr (.inr (List.mem_map.mpr ⟨_, marked, rfl⟩)))
  · intro entry inside marked
    rw [entries] at inside
    rw [passed]
    rcases (anchored _).mp marked with before | now
    · exact sound.anchored entry inside before
    · obtain ⟨other, member, same⟩ := List.mem_map.mp now
      exact (sound.underway other (pending other member)).2 entry inside same.symm
  · intro entry member
    rw [entries, passed]
    exact sound.underway entry (still entry member)

theorem passed_advance (index : Nat) (bridge : AnchoringBridge) (coroutine : Coroutine) :
    (world.advance index bridge coroutine).passed task =
      world.passed task ++
        (coroutine.call.filter fun call => call.1 = task).flatMap fun call => call.2.positions := by
  simp [World.passed, World.advance]

/-- A coroutine that runs to its next await keeps the invariant if it is clean. -/
theorem sound_advance (sound : ∀ task, world.Sound task) {index : Nat} {now : ℚ}
    {coroutine later : Coroutine} {bridge : AnchoringBridge}
    (there : world.coroutines[index]? = some coroutine)
    (clean : Action.Clean policy world (.resume index now))
    (resumed : Resumed policy world.bridge now coroutine bridge later) (task : TaskId) :
    (world.advance index bridge later).Sound task := by
  have clean := clean coroutine there
  cases resumed with
  | quietly sync underway call =>
      apply (sound task).of_same
      · exact congrArg (SimpleMemReceiptSync.receipts · task) sync
      · exact congrArg (SimpleMemReceiptSync.anchored · task) sync
      · exact fun entry => mem_flatMap_set_iff there (underway task)
      · simp [passed_advance, call]
  | passes owner sync passing underway fetched =>
      by_cases own : owner = task
      · subst own
        have apart := clean owner passing
        apply (sound owner).pass apart fetched sync
        · intro entry
          have alone : entry ∉ world.underway owner := by simp [(apart fetched).1]
          have inside := (List.getElem?_eq_some_iff.mp there).1
          constructor
          · intro member
            simpa [Coroutine.underway] using (mem_flatMap_set member).resolve_left alone
          · intro member
            refine List.mem_flatMap.mpr ⟨_, List.mem_set inside _, ?_⟩
            simpa [Coroutine.underway] using member
        · simp [passed_advance, Coroutine.call]
      · apply (sound task).of_same
        · exact congrArg (SimpleMemReceiptSync.receipts · task) sync
        · exact congrArg (SimpleMemReceiptSync.anchored · task) sync
        · refine fun entry => mem_flatMap_set_iff there ?_
          rw [underway task]
          simp [Coroutine.underway, own]
        · simp [passed_advance, Coroutine.call, own]
  | @marks owner batch _ marking sync =>
      subst marking
      by_cases own : owner = task
      · subst own
        refine (sound owner).mark ?_ sync ?_ ?_ ?_
        · intro entry member
          refine List.mem_flatMap.mpr ⟨_, List.mem_of_getElem? there, ?_⟩
          simpa [Coroutine.underway] using member
        · intro entry member
          exact (mem_flatMap_set member).resolve_right (by simp [Coroutine.underway])
        · intro entry member
          refine (mem_flatMap_of_set there member).imp_right fun here => ?_
          simpa [Coroutine.underway] using here
        · simp [passed_advance, Coroutine.call]
      · apply (sound task).of_same
        · exact congrArg (fun sync => sync.receipts task) sync
        · exact (congrArg (fun sync => sync.anchored task) sync).trans
            (update_of_ne (Ne.symm own) _ _)
        · refine fun entry => mem_flatMap_set_iff there ?_
          simp [Coroutine.underway, own]
        · simp [passed_advance, Coroutine.call]

theorem step_sound {action : Action} (sound : ∀ task, world.Sound task)
    (step : (anchoring policy).Step world action next) (clean : action.Clean policy world)
    (task : TaskId) : next.Sound task := by
  have performed : perform policy world action = some next := step
  cases action with
  | addReceipt owner receipt =>
      obtain rfl := Option.some.inj performed
      by_cases own : owner = task
      · subst own
        exact (sound owner).addReceipt clean
      · exact (sound task).of_same (update_of_ne (Ne.symm own) _ _) rfl (fun _ => Iff.rfl) rfl
  | setState owner state =>
      obtain rfl := Option.some.inj performed
      exact (sound task).of_same rfl rfl (fun _ => Iff.rfl) rfl
  | checkAndAnchor owner =>
      obtain rfl := Option.some.inj performed
      apply (sound task).of_same
      · exact congrArg (SimpleMemReceiptSync.receipts · task) stateOf_sync
      · exact congrArg (SimpleMemReceiptSync.anchored · task) stateOf_sync
      · simp [World.underway, World.start, Coroutine.underway]
      · rfl
  | forceAnchor owner =>
      obtain rfl := Option.some.inj performed
      refine (sound task).of_same rfl rfl (fun entry => ?_) rfl
      simp [World.underway, World.start, Coroutine.underway]
  | resume index now =>
      cases there : world.coroutines[index]? with
      | none => simp [perform, there] at performed
      | some coroutine =>
          have advanced : next = world.advance index (world.bridge.resume policy now coroutine).1
              (world.bridge.resume policy now coroutine).2 := by
            cases coroutine <;> simp_all [perform]
          rw [advanced]
          exact sound_advance sound there clean (resumed policy world.bridge now coroutine) task

theorem sound_init (task : TaskId) : World.Sound {} task where
  nodup := List.nodup_nil
  settled _ member := absurd member List.not_mem_nil
  anchored _ _ anchored := absurd anchored (Finset.notMem_empty _)
  underway _ member := absurd member List.not_mem_nil

theorem World.Sound.once (sound : ∀ task, world.Sound task) : world.AnchoredOnce := by
  refine fun task => ⟨(sound task).nodup, fun entry member never => ?_⟩
  apply (sound task).anchored entry member
  by_contra fresh
  exact never _ (unanchored_fetched (mem_unanchored.mpr ⟨member, fresh⟩))

/-- While every receipt is added under a key of its own and batches stand apart, every
receipt is anchored exactly once. -/
theorem anchored_once {actions : List Action}
    (run : ((anchoring policy).restrict (Action.Clean policy)).Run {} actions world) :
    world.AnchoredOnce := by
  apply World.Sound.once
  induction run with
  | nil => exact sound_init
  | snoc _ step ih => exact step_sound ih step.1 step.2

end Steps

/-! ## Runs of one task -/

namespace Demo

def task : TaskId := "task-001"

/-- A forced anchoring of the task from its fetch to its return. -/
def forced (index : Nat) : List Action :=
  [.forceAnchor task, .resume index 0, .resume index 0, .resume index 0]

/-- Two receipts are anchored on a change of state, and a third one, which comes in while
they are, after some time. -/
def orderly : Scene (fun world action =>
    if Action.Clean {} world action then perform {} world action else none) {} where
  actions := [.addReceipt task ⟨some "a"⟩, .addReceipt task ⟨some "b"⟩,
    .setState task "working", .checkAndAnchor task, .resume 0 1, .resume 0 1,
    .addReceipt task ⟨some "c"⟩, .resume 0 2, .resume 0 2,
    .checkAndAnchor task, .resume 1 40, .resume 1 40, .resume 1 40, .resume 1 40]
  possible := by decide +kernel

/-- A receipt without an id is marked under the id `""`, and anchored again. -/
def unnamed : Scene (perform {}) {} where
  actions := .addReceipt task ⟨none⟩ :: forced 0 ++ forced 1
  possible := by decide +kernel

/-- A second coroutine fetches what the first has passed and not marked. -/
def overlapping : Scene (perform {}) {} where
  actions := [.addReceipt task ⟨some "a"⟩, .forceAnchor task, .resume 0 0,
    .forceAnchor task, .resume 1 0]
  possible := by decide +kernel

/-- A receipt comes in with the id of an anchored one. -/
def recurring : Scene (perform {}) {} where
  actions := .addReceipt task ⟨some "a"⟩ :: forced 0 ++ [.addReceipt task ⟨some "a"⟩]
  possible := by decide +kernel

end Demo

theorem anchored_once_demo :
    Demo.orderly.world.passed Demo.task = [0, 1, 2] ∧ Demo.orderly.world.AnchoredOnce := by
  have run : ((anchoring {}).restrict (Action.Clean {})).Run {} Demo.orderly.actions
      Demo.orderly.world := by
    apply Demo.orderly.run
    intro world action next performed
    split at performed
    case isTrue clean => exact ⟨performed, clean⟩
    case isFalse => exact nomatch performed
  exact ⟨by decide +kernel, anchored_once run⟩

theorem World.not_once_of_passed {world : World} (task : TaskId) (position : Nat)
    (twice : world.passed task = [position, position]) : ¬world.AnchoredOnce := by
  intro once
  have nodup := (once task).1
  simp [twice] at nodup

theorem not_anchored_once :
    (∃ actions, (anchoring {}).Run {} actions Demo.unnamed.world ∧
      ¬Demo.unnamed.world.AnchoredOnce) ∧
    (∃ actions, (anchoring {}).Run {} actions Demo.overlapping.world ∧
      ¬Demo.overlapping.world.AnchoredOnce) ∧
    ∃ actions, (anchoring {}).Run {} actions Demo.recurring.world ∧
      ¬Demo.recurring.world.AnchoredOnce := by
  refine ⟨⟨_, Demo.unnamed.run fun _ _ _ performed => performed, ?_⟩,
    ⟨_, Demo.overlapping.run fun _ _ _ performed => performed, ?_⟩,
    ⟨_, Demo.recurring.run fun _ _ _ performed => performed, ?_⟩⟩
  · exact World.not_once_of_passed Demo.task 0 (by decide +kernel)
  · exact World.not_once_of_passed Demo.task 0 (by decide +kernel)
  · intro once
    have lost : (⟨some "a"⟩, 1) ∈ Demo.recurring.world.bridge.sync.entries Demo.task ∧
        (⟨some "a"⟩, 1) ∉ Demo.recurring.world.bridge.sync.unanchored Demo.task ∧
        1 ∉ Demo.recurring.world.passed Demo.task := by decide +kernel
    refine lost.2.2 ((once Demo.task).2 _ lost.1 fun limit returned => lost.2.1 ?_)
    exact (sliceTo_sublist _ _).subset returned

end TrustChain.Billing
