import TrustChain.SettlementStore.Rows

/-!
# Saving and reading back

What is read is the state that was saved, without the fields that have no column and with the
date-times that the database keeps. A row that was stored by a save, whatever the workers then
wrote of the chain, is the row of the state that is read from it, so saving this state again
changes nothing.
-/

namespace TrustChain.SettlementStore

open Library Service

theorem canonicalTaskStatus_canonical (status : TaskStatus) :
    canonicalTaskStatus (canonicalTaskStatus status) = canonicalTaskStatus status := by
  cases status <;> rfl

/-- Every status is read back from its value. -/
theorem parseStatus_value (status : TaskStatus) : parseStatus status.value = .ok status := by
  cases status <;> decide +kernel

theorem storedStatus_value (status : TaskStatus) :
    storedStatus (canonicalTaskStatus status).value = .ok (canonicalTaskStatus status) := by
  rw [storedStatus, parseStatus_value]
  exact congrArg Except.ok (canonicalTaskStatus_canonical status)

theorem fundingOr_ne_empty (source : String) : fundingOr source ≠ "" := by
  rw [fundingOr]
  by_cases empty : source = ""
  · rw [if_pos empty]
    decide
  · rw [if_neg empty]
    exact empty

theorem fundingOr_eq_self {source : String} : fundingOr source = source ↔ source ≠ "" := by
  constructor
  · intro same
    exact same ▸ fundingOr_ne_empty source
  · intro named
    exact if_neg named

section Rows

variable {δ : Type} (database : Database δ)

theorem map_column_eq_self {time : Option DateTime} :
    time.map database.column = time ↔ ∀ value ∈ time, database.column value = value := by
  cases time with
  | none => simp
  | some time => simp

/-! ## What is read of what is saved -/

/-- The state that is read from the row of a state. -/
def restored (state : SettlementState δ) : SettlementState δ :=
  { state with
    status := canonicalTaskStatus state.status
    rejectionReasonCode := none
    createdAt := database.column state.createdAt
    updatedAt := database.column state.updatedAt
    releasedAt := state.releasedAt.map database.column
    deliveryDeadlineAt := state.deliveryDeadlineAt.map database.column
    confirmWindowHours := none
    confirmDeadlineAt := none
    fundingSource := fundingOr state.fundingSource }

/-- A row keeps all of the state: no field without a column is set, the funding source is named,
and the database keeps the date-times as they are. -/
structure Kept (state : SettlementState δ) : Prop where
  rejectionReasonCode : state.rejectionReasonCode = none
  confirmWindowHours : state.confirmWindowHours = none
  confirmDeadlineAt : state.confirmDeadlineAt = none
  fundingSource : state.fundingSource ≠ ""
  createdAt : database.column state.createdAt = state.createdAt
  updatedAt : database.column state.updatedAt = state.updatedAt
  releasedAt : ∀ time ∈ state.releasedAt, database.column time = time
  deliveryDeadlineAt : ∀ time ∈ state.deliveryDeadlineAt, database.column time = time

variable {database} {state : SettlementState δ} {row : SettlementModel δ}
  {past : Option (SettlementModel δ)}

theorem fromRow_keep :
    fromRow (database.keep (toRow past state)) = .ok (restored database state) := by
  simp only [fromRow, Database.keep, toRow, storedStatus_value, ok_bind,
    fundingOr_eq_self.mpr (fundingOr_ne_empty state.fundingSource), restored]

theorem restored_eq_self (canonical : canonicalTaskStatus state.status = state.status) :
    restored database state = state ↔ Kept database state := by
  constructor
  · intro same
    exact {
      rejectionReasonCode :=
        (congrArg (fun state : SettlementState δ => state.rejectionReasonCode) same).symm
      confirmWindowHours :=
        (congrArg (fun state : SettlementState δ => state.confirmWindowHours) same).symm
      confirmDeadlineAt :=
        (congrArg (fun state : SettlementState δ => state.confirmDeadlineAt) same).symm
      fundingSource := fundingOr_eq_self.mp
        (congrArg (fun state : SettlementState δ => state.fundingSource) same)
      createdAt := congrArg (fun state : SettlementState δ => state.createdAt) same
      updatedAt := congrArg (fun state : SettlementState δ => state.updatedAt) same
      releasedAt := (map_column_eq_self database).mp
        (congrArg (fun state : SettlementState δ => state.releasedAt) same)
      deliveryDeadlineAt := (map_column_eq_self database).mp
        (congrArg (fun state : SettlementState δ => state.deliveryDeadlineAt) same) }
  · intro kept
    rw [restored, canonical, kept.createdAt, kept.updatedAt,
      (map_column_eq_self database).mpr kept.releasedAt,
      (map_column_eq_self database).mpr kept.deliveryDeadlineAt,
      fundingOr_eq_self.mpr kept.fundingSource, ← kept.rejectionReasonCode,
      ← kept.confirmWindowHours, ← kept.confirmDeadlineAt]

/-! ## Rows that stand for the state read from them -/

/-- A canonical status and a funding source. -/
structure Named (row : SettlementModel δ) : Prop where
  status : ∃ status, row.status = (canonicalTaskStatus status).value
  fundingSource : row.fundingSource ≠ ""

/-- What a save leaves in a row, and the workers keep. -/
structure Written (database : Database δ) (row : SettlementModel δ) : Prop extends Named row where
  createdAt : database.column row.createdAt = row.createdAt
  updatedAt : database.column row.updatedAt = row.updatedAt
  releasedAt : ∀ time ∈ row.releasedAt, database.column time = time
  deliveryDeadlineAt : ∀ time ∈ row.deliveryDeadlineAt, database.column time = time

theorem mem_map_column {time : Option DateTime} :
    ∀ value ∈ time.map database.column, database.column value = value := by
  intro value kept
  obtain ⟨original, -, rfl⟩ := Option.mem_map.mp kept
  exact database.column_column original

theorem Named.toRow : Named (toRow past state) where
  status := ⟨state.status, rfl⟩
  fundingSource := fundingOr_ne_empty state.fundingSource

theorem Named.onchain (named : Named row) (onchain : Onchain) : Named { row with onchain } where
  __ := named

theorem Named.touch [DecidableEq δ] {existing : SettlementModel δ} (named : Named row)
    (now : DateTime) : Named (touch now existing row) := by
  rw [SettlementStore.touch]
  split
  · exact { named with }
  · exact named

theorem Named.keep (named : Named row) : Written database (database.keep row) where
  __ := named
  createdAt := database.column_column row.createdAt
  updatedAt := database.column_column row.updatedAt
  releasedAt := mem_map_column
  deliveryDeadlineAt := mem_map_column

theorem Written.keep_eq_self (written : Written database row) : database.keep row = row := by
  rw [Database.keep, written.createdAt, written.updatedAt,
    (map_column_eq_self database).mpr written.releasedAt,
    (map_column_eq_self database).mpr written.deliveryDeadlineAt]

/-- The state that is read from such a row has the row as its own. -/
theorem Written.restores (written : Written database row) :
    ∃ state, fromRow row = .ok state ∧ canonicalTaskStatus state.status = state.status ∧
      toRow (some row) state = row := by
  obtain ⟨status, named⟩ := written.status
  refine ⟨_, by rw [fromRow, named, storedStatus_value, ok_bind], ?_, ?_⟩
  · exact canonicalTaskStatus_canonical status
  · simp only [toRow, canonicalTaskStatus_canonical, fundingOr_eq_self.mpr written.fundingSource,
      ← named, identifiers]

end Rows

/-! ## The stores of a run -/

section Runs

variable {δ : Type} {database : Database δ} {store next : Store δ}
  {state : SettlementState δ} {written stored : SettlementModel δ} {taskId : String}
  {now : DateTime}

/-- Rows that saves have left, one for each settlement and one for each task. -/
structure Sound (database : Database δ) (store : Store δ) : Prop where
  written : ∀ row ∈ store, Written database row ∧ database.takes row = true
  settlements : ∀ row ∈ store, ∀ other ∈ store, row.settlementId = other.settlementId → row = other
  tasks : ∀ row ∈ store, ∀ other ∈ store, row.taskId = other.taskId →
    row.settlementId = other.settlementId

@[simp] theorem flush_eq_ok :
    flush database store written = .ok () ↔ database.takes written = true ∧
      ∀ row ∈ store, row.taskId = written.taskId → row.settlementId = written.settlementId :=
  require_eq_ok

theorem row_eq_none {settlementId : String} :
    row store settlementId = none ↔ ∀ row ∈ store, row.settlementId ≠ settlementId := by
  simp [row]

theorem Sound.row_eq_some (sound : Sound database store) (there : stored ∈ store) :
    row store stored.settlementId = some stored := by
  cases found : row store stored.settlementId with
  | none => exact absurd rfl (row_eq_none.mp found stored there)
  | some other =>
      have same : other.settlementId = stored.settlementId := by
        simpa using List.find?_some found
      rw [sound.settlements other (List.mem_of_find?_eq_some found) stored there same]

/-- A store of the written row and of old rows that are no other versions of it. -/
theorem Sound.write (sound : Sound database store) (new : Written database written)
    (flushed : flush database store written = .ok ())
    (rows : ∀ row ∈ next, row = written ∨ row ∈ store ∧ row.settlementId ≠ written.settlementId) :
    Sound database next := by
  obtain ⟨taken, tasks⟩ := flush_eq_ok.mp flushed
  constructor
  · intro row there
    rcases rows row there with rfl | ⟨old, -⟩
    · exact ⟨new, taken⟩
    · exact sound.written row old
  · intro row there other otherThere same
    rcases rows row there with rfl | ⟨old, apart⟩ <;>
      rcases rows other otherThere with rfl | ⟨otherOld, otherApart⟩
    · rfl
    · exact absurd same.symm otherApart
    · exact absurd same apart
    · exact sound.settlements row old other otherOld same
  · intro row there other otherThere same
    rcases rows row there with rfl | ⟨old, apart⟩ <;>
      rcases rows other otherThere with rfl | ⟨otherOld, otherApart⟩
    · rfl
    · exact (tasks other otherOld same.symm).symm
    · exact tasks row old same
    · exact sound.tasks row old other otherOld same

theorem Sound.add (sound : Sound database store) (new : Written database written)
    (flushed : flush database store written = .ok ())
    (fresh : row store written.settlementId = none) : Sound database (store ++ [written]) := by
  have unused := row_eq_none.mp fresh
  apply sound.write new flushed
  intro row there
  rcases List.mem_append.mp there with old | last
  · exact .inr ⟨old, unused row old⟩
  · exact .inl (List.mem_singleton.mp last)

/-- A row of the store after a write over `written.settlementId`. -/
theorem mem_overwrite (there : stored ∈ overwrite store written) :
    stored = written ∨ stored ∈ store ∧ stored.settlementId ≠ written.settlementId := by
  obtain ⟨old, oldThere, rfl⟩ := List.mem_map.mp there
  by_cases same : old.settlementId = written.settlementId
  · exact .inl (if_pos same)
  · rw [if_neg same]
    exact .inr ⟨oldThere, same⟩

theorem Sound.overwrite (sound : Sound database store) (new : Written database written)
    (flushed : flush database store written = .ok ()) :
    Sound database (overwrite store written) := by
  apply sound.write new flushed
  intro row there
  exact mem_overwrite there

theorem guardSave_self (same : toRow (some stored) state = stored) :
    guardSave stored stored state.status = .ok () := by
  have named : stored.status = (canonicalTaskStatus state.status).value := by
    rw [← same]
    rfl
  have unchanged : changedField stored stored = none := by simp [changedField]
  simp only [guardSave, named, storedStatus_value, ok_bind, unchanged, ite_self]
  rw [require_ok (Or.inl trivial)]
  rfl

theorem overwrite_self (sound : Sound database store) (there : stored ∈ store) :
    overwrite store stored = store := by
  conv_rhs => rw [← List.map_id store]
  apply List.map_congr_left
  intro row rowThere
  by_cases same : row.settlementId = stored.settlementId
  · rw [if_pos same, sound.settlements row rowThere stored there same]
    rfl
  · rw [if_neg same]
    rfl

variable [DecidableEq δ]

/-- What a save of a known settlement and of a new one does. -/
theorem save_cases (saved : save database now store state = .ok next) :
    (∃ existing written, Written database written ∧ flush database store written = .ok () ∧
      row store state.settlementId = some existing ∧ next = overwrite store written) ∨
    (row store state.settlementId = none ∧
      flush database store (database.keep (toRow none state)) = .ok () ∧
      next = store ++ [database.keep (toRow none state)]) := by
  rw [save] at saved
  split at saved
  · rename_i existing known
    obtain ⟨_, -, saved⟩ := bind_eq_ok.mp saved
    obtain ⟨_, flushed, saved⟩ := bind_eq_ok.mp saved
    cases saved
    exact .inl ⟨existing, _, (Named.toRow.touch now).keep, flushed, known, rfl⟩
  · rename_i fresh
    obtain ⟨_, flushed, saved⟩ := bind_eq_ok.mp saved
    cases saved
    exact .inr ⟨fresh, flushed, rfl⟩

theorem Sound.save (sound : Sound database store)
    (saved : save database now store state = .ok next) : Sound database next := by
  rcases save_cases saved with ⟨_, _, new, flushed, -, rfl⟩ | ⟨fresh, flushed, rfl⟩
  · exact sound.overwrite new flushed
  · exact sound.add Named.toRow.keep flushed fresh

theorem Sound.persistOnchain (sound : Sound database store) {onchain : Onchain}
    (persisted : persistOnchain database now store taskId onchain = .ok next) :
    Sound database next := by
  rw [SettlementStore.persistOnchain] at persisted
  split at persisted
  · rename_i existing known
    obtain ⟨_, flushed, persisted⟩ := bind_eq_ok.mp persisted
    cases persisted
    have old := (sound.written existing (List.mem_of_find?_eq_some known)).1
    exact sound.overwrite ((old.toNamed.onchain onchain).touch now).keep flushed
  · cases persisted
    exact sound

theorem sound_of_reachable (reachable : (system database).Reachable store) :
    Sound database store := by
  refine reachable.invariant ?_ ?_
  · intro store empty
    have none_stored : store = [] := empty
    rw [none_stored]
    exact ⟨by simp, by simp, by simp⟩
  · intro store action next _ sound step
    cases action with
    | save now state => exact sound.save step
    | persistOnchain now taskId onchain => exact sound.persistOnchain step

/-! ## The round trip -/

/-- Under a fresh settlement id, what is read of the task is what the row keeps of the state. -/
theorem get_of_saved (fresh : row store state.settlementId = none)
    (saved : save database now store state = .ok next) :
    get next state.taskId = .ok (some (restored database state)) := by
  rcases save_cases saved with ⟨_, _, -, -, known, -⟩ | ⟨-, flushed, rfl⟩
  · rw [fresh] at known
    cases known
  · have unused : ∀ row ∈ store, row.taskId ≠ state.taskId := by
      intro row there same
      exact row_eq_none.mp fresh row there ((flush_eq_ok.mp flushed).2 row there same)
    have missed : store.find? (fun row => row.taskId = state.taskId) = none := by
      simpa using unused
    have found : (store ++ [database.keep (toRow none state)]).find?
        (fun row => row.taskId = state.taskId) = some (database.keep (toRow none state)) := by
      rw [List.find?_append, missed, Option.none_or]
      exact List.find?_cons_of_pos (decide_eq_true rfl)
    simp only [get, found, fromRow_keep]
    rfl

/-- Saving the state that was read changes nothing. -/
theorem save_of_get (sound : Sound database store) (read : get store taskId = .ok (some state)) :
    save database now store state = .ok store := by
  rw [get] at read
  split at read
  · rename_i stored found
    obtain ⟨_, restores, given⟩ := map_eq_ok.mp read
    cases given
    have there := List.mem_of_find?_eq_some found
    obtain ⟨written, taken⟩ := sound.written stored there
    obtain ⟨_, again, -, same⟩ := written.restores
    cases restores.symm.trans again
    have identified : stored.settlementId = state.settlementId :=
      (congrArg (fun row : SettlementModel δ => row.settlementId) same).symm
    have known := sound.row_eq_some there
    rw [identified] at known
    have unchanged : touch now stored stored = stored := if_neg fun changed => changed.1 rfl
    have flushed : flush database store stored = .ok () :=
      flush_eq_ok.mpr ⟨taken, fun row rowThere => sound.tasks row rowThere stored there⟩
    rw [save, known]
    simp only [same, guardSave_self same, ok_bind, unchanged, written.keep_eq_self, flushed,
      overwrite_self sound there]
  · cases read

/-- A state that is saved under a fresh settlement id is read back as it is exactly if a row
keeps all of it, and saving what is read of any stored settlement changes nothing. -/
theorem round_trip (reachable : (system database).Reachable store) :
    (∀ (now : DateTime) (state : SettlementState δ) (next : Store δ),
      canonicalTaskStatus state.status = state.status →
      row store state.settlementId = none →
      save database now store state = .ok next →
      (get next state.taskId = .ok (some state) ↔ Kept database state)) ∧
    ∀ (taskId : String) (state : SettlementState δ) (now : DateTime),
      get store taskId = .ok (some state) → save database now store state = .ok store := by
  constructor
  · intro now state next canonical fresh saved
    rw [get_of_saved fresh saved, ← restored_eq_self canonical]
    constructor
    · intro same
      exact Option.some.inj (Except.ok.inj same)
    · intro same
      rw [same]
  · intro taskId state now read
    exact save_of_get (sound_of_reachable reachable) read

end Runs

namespace Demo

/-- A database that keeps date-times without their offsets, with the lengths of its columns. -/
def database : Database Unit where
  column := DateTime.utc
  column_column _ := DateTime.utc_eq_self.mpr rfl
  takes row := row.settlementId.length ≤ 64 ∧ row.taskId.length ≤ 64 ∧ row.currency.length ≤ 8 ∧
    row.clientAgentId.length ≤ 64 ∧ row.fundingSource.length ≤ 16

/-- A draft over 10. -/
def draft (taskId : String) (confirmWindowHours : Option Nat) : SettlementState Unit where
  settlementId := "settlement-" ++ taskId
  taskId
  escrowAmount := 10
  currency := "USD"
  status := .draft
  clientAgentId := "buyer"
  workerAgentId := none
  profileId := none
  releasedAmount := none
  refundedAmount := none
  disputeReason := none
  rejectionReasonCode := none
  arbitrationNotes := none
  createdAt := ⟨0, none⟩
  updatedAt := ⟨0, none⟩
  releasedAt := none
  settlementMode := "offchain"
  chainId := none
  contractAddress := none
  txHash := none
  evidenceBundleHash := none
  onchainStatus := none
  quoteId := none
  voucherId := none
  deliveryDeadlineAt := some ⟨60000000, none⟩
  confirmWindowHours
  confirmDeadlineAt := none
  progressRuleSpec := none
  fundingSource := "internal"

def drafted : Store Unit := [toRow none (draft "a" none)]

theorem drafted_reachable : (system database).Reachable drafted :=
  (TransitionSystem.Reachable.init rfl).step
    (show perform database [] (.save ⟨0, none⟩ (draft "a" none)) = .ok drafted by decide +kernel)

end Demo

theorem round_trip_drafted :
    get (Demo.drafted ++ [toRow none (Demo.draft "b" none)]) "b" =
        .ok (some (Demo.draft "b" none)) ∧
      save Demo.database ⟨1, none⟩ Demo.drafted (Demo.draft "a" none) = .ok Demo.drafted := by
  obtain ⟨readBack, savedAgain⟩ := round_trip Demo.drafted_reachable
  constructor
  · refine (readBack ⟨1, none⟩ (Demo.draft "b" none) _ rfl (by decide +kernel)
      (by decide +kernel)).mpr ?_
    exact ⟨rfl, rfl, rfl, by decide, rfl, rfl, by simp [Demo.draft], by simp [Demo.draft]; rfl⟩
  · exact savedAgain "a" (Demo.draft "a" none) ⟨1, none⟩ (by decide +kernel)

/-- A confirmation window of 24 hours is not read back. -/
theorem not_round_trip :
    ¬ ∀ next : Store Unit,
      save Demo.database ⟨0, none⟩ [] (Demo.draft "a" (some 24)) = .ok next →
      get next "a" = .ok (some (Demo.draft "a" (some 24))) := by
  intro everywhere
  have kept := everywhere [toRow none (Demo.draft "a" (some 24))] (by decide +kernel)
  revert kept
  decide +kernel

end TrustChain.SettlementStore
