import Mathlib.Data.List.Range
import TrustChain.Receipts.Routes

/-!
# The chain of a task's receipts

Whatever requests are under way, the receipts of a task are numbered from one, each starts when
the one before it has ended, and none of them ever changes. The route for runtime keys compares
date-times as they come, so it takes no start with an offset once there is a receipt.
-/

namespace TrustChain.Receipts

open Library Service

/-- The database returns the UTC wall-clock time of a date-time, without an offset. -/
def ReadsUtc (column : DateTime → DateTime) : Prop := ∀ time, column time = time.utc

/-- The receipts of every task are numbered from one, and each starts after the one before. -/
structure Rows.Chained (rows : Rows) : Prop where
  numbered : ∀ taskId, ((rows.ofTask taskId).map ReceiptRow.stepIndex).Perm
    (List.range' 1 (rows.ofTask taskId).length)
  ordered : ∀ taskId, ∀ row ∈ rows.ofTask taskId, ∀ next ∈ rows.ofTask taskId,
    next.stepIndex = row.stepIndex + 1 → row.endedAt.instant ≤ next.startedAt.instant

/-- Every row is that of a receipt which ends when it has started. -/
def Rows.Stored (column : DateTime → DateTime) (rows : Rows) : Prop :=
  rows.Every fun _ row => ∃ receipt, row = toRow column receipt ∧
    receipt.startedAt.instant ≤ receipt.endedAt.instant

/-- The receipt can be the next one of its task, as far as the table shows. -/
structure Follows (rows : Rows) (receipt : ExecutionReceipt) : Prop where
  lasts : receipt.startedAt.instant ≤ receipt.endedAt.instant
  follows : receipt.stepIndex = 1 ∨ ∃ prior ∈ rows.ofTask receipt.taskId,
    receipt.stepIndex = prior.stepIndex + 1 ∧ prior.endedAt.instant ≤ receipt.startedAt.instant

/-- The receipts of every task are numbered from one. -/
def Rows.Numbered (rows : Rows) : Prop :=
  ∀ taskId, ((rows.ofTask taskId).map ReceiptRow.stepIndex).Perm
    (List.range' 1 (rows.ofTask taskId).length)

/-- The receipt has the first number, or the one after that of a receipt of its task. -/
def Rows.Continues (rows : Rows) (receipt : ExecutionReceipt) : Prop :=
  receipt.stepIndex = 1 ∨
    ∃ prior ∈ rows.ofTask receipt.taskId, receipt.stepIndex = prior.stepIndex + 1

theorem Follows.continues {rows : Rows} {receipt : ExecutionReceipt}
    (follows : Follows rows receipt) : rows.Continues receipt := by
  refine follows.follows.imp_right ?_
  rintro ⟨prior, inside, after, -⟩
  exact ⟨prior, inside, after⟩

structure World.Sound (column : DateTime → DateTime) (world : World) : Prop where
  chained : world.rows.Chained
  stored : world.rows.Stored column
  ready : ∀ client stage, world.pending client = some stage → Follows world.rows stage.receipt

/-! ## The table -/

section Tables

variable {column : DateTime → DateTime} {rows : Rows} {taskId : TaskId} {row : ReceiptRow}
  {receipt : ExecutionReceipt} {receiptId : ReceiptId}

theorem mem_ofTask : row ∈ rows.ofTask taskId ↔
    (∃ receiptId, rows.get receiptId = some row) ∧ row.taskId = taskId := by
  simp only [Rows.ofTask, List.mem_filter, List.mem_map, decide_eq_true_eq]
  refine and_congr_left fun _ => ?_
  constructor
  · rintro ⟨⟨receiptId, found⟩, inside, rfl⟩
    exact ⟨receiptId, Table.mem_rows_iff.mp inside⟩
  · rintro ⟨receiptId, there⟩
    exact ⟨(receiptId, row), Table.mem_rows_iff.mpr there, rfl⟩

/-- A row under a fresh identifier comes in front of the others. -/
theorem ofTask_set (fresh : rows.get receiptId = none) (row : ReceiptRow) :
    Rows.ofTask (rows.set receiptId row) taskId =
      if row.taskId = taskId then row :: rows.ofTask taskId else rows.ofTask taskId := by
  have others : rows.others receiptId = rows.rows := by
    refine List.filter_eq_self.mpr fun entry inside => ?_
    rw [decide_eq_true_eq]
    rintro rfl
    exact Option.some_ne_none _ ((Table.mem_rows_iff.mp inside).symm.trans fresh)
  have whole : (rows.set receiptId row).rows = (receiptId, row) :: rows.rows :=
    congrArg ((receiptId, row) :: ·) others
  rw [Rows.ofTask, whole, List.map_cons, List.filter_cons]
  by_cases here : row.taskId = taskId
  · simp [here, Rows.ofTask]
  · simp [here, Rows.ofTask]

theorem latestRow_eq_none {list : List ReceiptRow} : latestRow list = none ↔ list = [] := by
  cases list with
  | nil => exact ⟨fun _ => rfl, fun _ => rfl⟩
  | cons row rest =>
      refine ⟨fun none_ => ?_, fun empty => by cases empty⟩
      rw [latestRow] at none_
      split at none_
      · cases none_
      · split at none_ <;> cases none_

theorem mem_of_latestRow {list : List ReceiptRow} (latest : latestRow list = some row) :
    row ∈ list := by
  induction list with
  | nil => cases latest
  | cons first rest ih =>
      rw [latestRow] at latest
      split at latest
      · obtain rfl := Option.some.inj latest
        exact List.mem_cons_self
      · next other found =>
          split at latest
          · obtain rfl := Option.some.inj latest
            exact List.mem_cons_of_mem first (ih found)
          · obtain rfl := Option.some.inj latest
            exact List.mem_cons_self

theorem fromRow_fields (read : fromRow row = some receipt) :
    receipt.stepIndex = row.stepIndex ∧ receipt.startedAt = row.startedAt ∧
      receipt.endedAt = row.endedAt := by
  simp only [fromRow, Option.bind_eq_bind, Option.bind_eq_some_iff] at read
  obtain ⟨extension, -, payment, -, status, -, read⟩ := read
  split at read
  · obtain rfl := Option.some.inj read
    exact ⟨rfl, rfl, rfl⟩
  · cases read

/-- A first receipt, or one after a receipt of its task, has the number that is still free. -/
theorem Rows.Numbered.next_step (numbered : rows.Numbered) (continues : rows.Continues receipt)
    (free : ∀ row ∈ rows.ofTask receipt.taskId, row.stepIndex ≠ receipt.stepIndex) :
    receipt.stepIndex = (rows.ofTask receipt.taskId).length + 1 := by
  have numbers : ∀ step, step ∈ (rows.ofTask receipt.taskId).map ReceiptRow.stepIndex ↔
      1 ≤ step ∧ step < 1 + (rows.ofTask receipt.taskId).length := fun step =>
    (numbered receipt.taskId).mem_iff.trans List.mem_range'_1
  have fresh : ¬(1 ≤ receipt.stepIndex ∧
      receipt.stepIndex < 1 + (rows.ofTask receipt.taskId).length) := by
    rw [← numbers, List.mem_map]
    rintro ⟨row, inside, same⟩
    exact free row inside same
  have positive := receipt.firstStep
  rcases continues with first | ⟨prior, inside, after⟩
  · omega
  · have bounds := (numbers prior.stepIndex).mp (List.mem_map_of_mem inside)
    omega

/-- Such a receipt keeps the numbers of its task in order. -/
theorem Rows.Numbered.insert (numbered : rows.Numbered) (continues : rows.Continues receipt)
    (free : ¬rows.Taken receipt) :
    Rows.Numbered (rows.set receipt.receiptId (toRow column receipt)) := by
  have fresh : rows.get receipt.receiptId = none := Option.not_isSome_iff_eq_none.mp fun taken =>
    free (.inl taken)
  have step := numbered.next_step continues fun row inside same => free (.inr ⟨row, inside, same⟩)
  intro taskId
  rw [ofTask_set fresh]
  split
  case isTrue here =>
    obtain rfl : receipt.taskId = taskId := here
    rw [List.map_cons, List.length_cons, List.range'_1_concat]
    refine .trans ((numbered receipt.taskId).cons _) ?_
    have last : (toRow column receipt).stepIndex = 1 + (rows.ofTask receipt.taskId).length :=
      step.trans (Nat.add_comm _ _)
    rw [last]
    exact (List.perm_append_singleton _ _).symm
  case isFalse => exact numbered taskId

theorem Rows.Stored.lasts (stored : rows.Stored column) (reads : ReadsUtc column)
    (inside : row ∈ rows.ofTask taskId) :
    row.startedAt.instant ≤ row.endedAt.instant ∧ row.endedAt.offset = none := by
  obtain ⟨⟨receiptId, there⟩, -⟩ := mem_ofTask.mp inside
  obtain ⟨receipt, rfl, lasts⟩ := stored receiptId row there
  simp only [toRow, reads receipt.startedAt, reads receipt.endedAt, DateTime.utc_instant]
  exact ⟨lasts, rfl⟩

/-- A receipt that follows the chain lengthens it. -/
theorem Rows.Chained.insert (chained : rows.Chained) (reads : ReadsUtc column)
    (follows : Follows rows receipt) (free : ¬rows.Taken receipt) :
    Rows.Chained (rows.set receipt.receiptId (toRow column receipt)) := by
  have fresh : rows.get receipt.receiptId = none := Option.not_isSome_iff_eq_none.mp fun taken =>
    free (.inl taken)
  have numbered : rows.Numbered := chained.numbered
  have step := numbered.next_step follows.continues fun row inside same =>
    free (.inr ⟨row, inside, same⟩)
  constructor
  · exact numbered.insert follows.continues free
  · intro taskId row inside next after successor
    rw [ofTask_set fresh] at inside after
    split at inside
    case isTrue here =>
      obtain rfl : receipt.taskId = taskId := here
      rw [if_pos (show (toRow column receipt).taskId = receipt.taskId from rfl)] at after
      have bounded : ∀ row ∈ rows.ofTask receipt.taskId, row.stepIndex < receipt.stepIndex := by
        intro row inside
        have member := (chained.numbered receipt.taskId).mem_iff.mp
          (List.mem_map_of_mem (f := ReceiptRow.stepIndex) inside)
        have bounds := List.mem_range'_1.mp member
        omega
      rcases List.mem_cons.mp inside with rfl | earlier <;>
        rcases List.mem_cons.mp after with rfl | later
      · have itself : receipt.stepIndex = receipt.stepIndex + 1 := successor
        omega
      · have beyond : next.stepIndex = receipt.stepIndex + 1 := successor
        have below := bounded next later
        omega
      · -- the new receipt follows the row that has the number before its own
        have before : receipt.stepIndex = row.stepIndex + 1 := successor
        rcases follows.follows with first | ⟨prior, there, number, ended⟩
        · have member := (chained.numbered receipt.taskId).mem_iff.mp
            (List.mem_map_of_mem (f := ReceiptRow.stepIndex) earlier)
          have bounds := List.mem_range'_1.mp member
          omega
        · have distinct : ((rows.ofTask receipt.taskId).map ReceiptRow.stepIndex).Nodup :=
            (chained.numbered receipt.taskId).nodup_iff.mpr List.nodup_range'
          have same : prior = row :=
            List.inj_on_of_nodup_map distinct there earlier (by omega)
          simpa [toRow, reads receipt.startedAt, ← same] using ended
      · exact chained.ordered receipt.taskId row earlier next later successor
    case isFalse elsewhere =>
      rw [if_neg elsewhere] at after
      exact chained.ordered taskId row inside next after successor

end Tables

/-! ## The two routes -/

section Routes

variable {column : DateTime → DateTime} {signing : Signing} {context : Context} {rows : Rows}
  {receipt checked : ExecutionReceipt} {ctx : RuntimeKeyContext} {route : Route}
  {latest : Option ExecutionReceipt}

/-- What both routes check of a receipt, apart from its signature. -/
structure Context.Admits (context : Context) (receipt : ExecutionReceipt) : Prop where
  task : validatePublicUrlSegment "task_id" receipt.taskId = .ok ()
  identifier : validatePublicUrlSegment "receipt_id" receipt.receiptId = .ok ()
  contract : context.contracts receipt.taskId = true
  static : validateExecutionReceiptStatic context receipt = .ok ()
  template : validateTemplateBinding context receipt = .ok ()

/-- What the runtime route asks of its key. -/
structure RuntimeKeyContext.Authorizes (ctx : RuntimeKeyContext) (signing : Signing)
    (receipt : ExecutionReceipt) : Prop where
  permitted : "submit_receipt" ∈ ctx.permissions
  owner : receipt.agentId = ctx.karmaIdentityId
  ready : ctx.ready receipt.taskId = true
  verifies : verifyExecutionReceiptSignature signing (signed signing (ctx.fill receipt)) = true

/-- The receipt has the next number, and starts when the latest one has ended. -/
def Continues (receipt : ExecutionReceipt) : Option ExecutionReceipt → Prop
  | none => receipt.stepIndex = 1
  | some latest => receipt.stepIndex = latest.stepIndex + 1 ∧
      latest.endedAt.instant ≤ receipt.startedAt.instant

/-- A date-time can be compared with the end of the latest receipt. -/
def Comparable (receipt : ExecutionReceipt) (latest : Option ExecutionReceipt) : Prop :=
  ∀ prior ∈ latest, receipt.startedAt.offset.isSome = prior.endedAt.offset.isSome

theorem fill_eq (ctx : RuntimeKeyContext) (receipt : ExecutionReceipt) :
    ∃ profileId, ctx.fill receipt = { receipt with profileId } := by
  unfold RuntimeKeyContext.fill
  split
  · exact ⟨_, rfl⟩
  · exact ⟨receipt.profileId, rfl⟩

/-- No check reads the profile. -/
theorem checks_fill (context : Context) (ctx : RuntimeKeyContext) (receipt : ExecutionReceipt) :
    validateExecutionReceiptStatic context (ctx.fill receipt) =
        validateExecutionReceiptStatic context receipt ∧
      validateTemplateBinding context (ctx.fill receipt) = validateTemplateBinding context receipt := by
  obtain ⟨profileId, filled⟩ := fill_eq ctx receipt
  rw [filled]
  constructor
  · simp only [validateExecutionReceiptStatic]
  · simp only [validateTemplateBinding, validateExtensionVsTaskType]

theorem order_fill (ctx : RuntimeKeyContext) (receipt : ExecutionReceipt) :
    (ctx.fill receipt).taskId = receipt.taskId ∧ checkStep (ctx.fill receipt) = checkStep receipt ∧
      runtimeCheckTimes (ctx.fill receipt) = runtimeCheckTimes receipt := by
  obtain ⟨profileId, filled⟩ := fill_eq ctx receipt
  rw [filled]
  refine ⟨rfl, ?_, ?_⟩
  · funext latest
    cases latest <;> rfl
  · funext latest
    cases latest <;> rfl

theorem checkTimes_eq_ok :
    checkStep receipt latest = .ok () ∧ checkTimes receipt latest = .ok () ↔
      Continues receipt latest ∧
        ∀ prior ∈ latest, prior.startedAt.instant ≤ receipt.startedAt.instant := by
  cases latest with
  | none => simp [checkStep, checkTimes, Continues, require_eq_ok]
  | some prior =>
      simp only [checkStep, checkTimes, Continues, require_eq_ok, require_bind_eq_ok,
        executionReceiptStartsBeforePriorEnded, not_lt, Option.mem_def, Option.some.injEq,
        forall_eq']
      tauto

theorem runtimeCheckTimes_eq_ok :
    checkStep receipt latest = .ok () ∧ runtimeCheckTimes receipt latest = .ok () ↔
      Continues receipt latest ∧ Comparable receipt latest := by
  cases latest with
  | none => simp [checkStep, runtimeCheckTimes, Continues, Comparable, require_eq_ok]
  | some prior =>
      have compared : runtimeCheckTimes receipt (some prior) = .ok () ↔
          receipt.startedAt.offset.isSome = prior.endedAt.offset.isSome ∧
            prior.endedAt.instant ≤ receipt.startedAt.instant := by
        unfold runtimeCheckTimes DateTime.lt?
        by_cases alike : receipt.startedAt.offset.isSome = prior.endedAt.offset.isSome
        · by_cases early : receipt.startedAt.instant < prior.endedAt.instant
          · simp [alike, early]
          · simp [alike, early, not_lt.mp early]
        · simp [alike]
      rw [compared, checkStep, require_eq_ok]
      simp only [Continues, Comparable, Option.mem_def, Option.some.injEq, forall_eq']
      tauto

theorem submitReceipt_ok : submitReceipt signing context rows receipt = .ok checked ↔
    (context.Admits receipt ∧
      executionReceiptSignatureAcceptable signing context.settings receipt = true ∧
      ∃ latest, readLatest rows receipt.taskId = .ok latest ∧ Continues receipt latest ∧
        ∀ prior ∈ latest, prior.startedAt.instant ≤ receipt.startedAt.instant) ∧
      checked = receipt := by
  simp only [submitReceipt, bind_eq_ok, require_eq_ok]
  constructor
  · rintro ⟨_, task, _, identifier, _, contract, _, static, _, template, _, acceptable, latest, read,
      _, step, _, times, same⟩
    have order := checkTimes_eq_ok.mp ⟨step, times⟩
    exact ⟨⟨⟨task, identifier, contract, static, template⟩, acceptable, latest, read, order⟩,
      (Except.ok.inj same).symm⟩
  · rintro ⟨⟨admits, acceptable, latest, read, order⟩, rfl⟩
    obtain ⟨step, times⟩ := checkTimes_eq_ok.mpr order
    exact ⟨(), admits.task, (), admits.identifier, (), admits.contract, (), admits.static, (),
      admits.template, (), acceptable, latest, read, (), step, (), times, rfl⟩

theorem runtimeSubmitReceipt_ok :
    runtimeSubmitReceipt signing context ctx rows receipt = .ok checked ↔
      (context.Admits receipt ∧ ctx.Authorizes signing receipt ∧
        ∃ latest, readLatest rows receipt.taskId = .ok latest ∧ Continues receipt latest ∧
          Comparable receipt latest) ∧
        checked = signed signing (ctx.fill receipt) := by
  obtain ⟨static, template⟩ := checks_fill context ctx receipt
  obtain ⟨task, step, times⟩ := order_fill ctx receipt
  simp only [runtimeSubmitReceipt, bind_eq_ok, require_eq_ok, static, template, step, times, task]
  constructor
  · rintro ⟨_, permitted, _, task, _, identifier, _, owner, _, ready, _, contract, _, static, _,
      template, _, verifies, latest, read, _, step, _, times, same⟩
    exact ⟨⟨⟨task, identifier, contract, static, template⟩, ⟨permitted, owner, ready, verifies⟩,
      latest, read, runtimeCheckTimes_eq_ok.mp ⟨step, times⟩⟩, (Except.ok.inj same).symm⟩
  · rintro ⟨⟨admits, authorizes, latest, read, order⟩, rfl⟩
    obtain ⟨step, times⟩ := runtimeCheckTimes_eq_ok.mpr order
    exact ⟨(), authorizes.permitted, (), admits.task, (), admits.identifier, (), authorizes.owner,
      (), authorizes.ready, (), admits.contract, (), admits.static, (), admits.template, (),
      authorizes.verifies, latest, read, (), step, (), times, rfl⟩

theorem readLatest_ok (read : readLatest rows receipt.taskId = .ok latest) :
    (latest = none ∧ rows.ofTask receipt.taskId = []) ∨
      ∃ prior row, latest = some prior ∧ row ∈ rows.ofTask receipt.taskId ∧
        fromRow row = some prior := by
  rw [readLatest, getLatestByTask] at read
  cases found : latestRow (rows.ofTask receipt.taskId) with
  | none =>
      rw [found] at read
      exact .inl ⟨(Except.ok.inj read).symm, latestRow_eq_none.mp found⟩
  | some row =>
      cases stored : fromRow row with
      | none =>
          rw [found] at read
          simp [stored] at read
      | some prior =>
          rw [found] at read
          simp only [stored, Option.map_some] at read
          exact .inr ⟨prior, row, (Except.ok.inj read).symm, mem_of_latestRow found, stored⟩

theorem Context.Admits.lasts (admits : context.Admits receipt) :
    receipt.startedAt.instant ≤ receipt.endedAt.instant := by
  have static := admits.static
  simp only [validateExecutionReceiptStatic, bind_eq_ok, require_eq_ok] at static
  obtain ⟨_, -, _, -, _, ordered, -⟩ := static
  exact not_lt.mp ordered

theorem follows_of_continues (admits : context.Admits receipt)
    (read : readLatest rows receipt.taskId = .ok latest) (continues : Continues receipt latest) :
    Follows rows receipt := by
  refine ⟨admits.lasts, ?_⟩
  rcases readLatest_ok read with ⟨rfl, -⟩ | ⟨prior, row, rfl, inside, stored⟩
  · exact .inl continues
  · obtain ⟨step, -, ended⟩ := fromRow_fields stored
    exact .inr ⟨row, inside, step ▸ continues.1, ended ▸ continues.2⟩

/-- What a route lets pass follows the table that it has read. -/
theorem accept_follows (accepted : route.accept signing context rows receipt = .ok checked) :
    Follows rows checked := by
  cases route with
  | submitReceipt =>
      obtain ⟨⟨admits, -, latest, read, continues, -⟩, rfl⟩ := submitReceipt_ok.mp accepted
      exact follows_of_continues admits read continues
  | runtimeSubmitReceipt ctx =>
      obtain ⟨⟨admits, -, latest, read, continues, -⟩, rfl⟩ := runtimeSubmitReceipt_ok.mp accepted
      have follows := follows_of_continues admits read continues
      obtain ⟨profileId, filled⟩ := fill_eq ctx receipt
      rw [filled]
      exact ⟨follows.lasts, follows.follows⟩

/-- In a sound table the latest receipt of a task can be read. -/
theorem exists_readLatest (stored : rows.Stored column) (taskId : TaskId) :
    ∃ latest, readLatest rows taskId = .ok latest := by
  rw [readLatest, getLatestByTask]
  cases found : latestRow (rows.ofTask taskId) with
  | none => exact ⟨none, rfl⟩
  | some row =>
      obtain ⟨⟨receiptId, there⟩, -⟩ := mem_ofTask.mp (mem_of_latestRow found)
      obtain ⟨receipt, rfl, -⟩ := stored receiptId row there
      exact ⟨some (receipt.readBack column), by simp only [fromRow_toRow, Option.map_some]⟩

/-- The receipt passes the checks and follows the latest one of its task. -/
def Next (context : Context) (rows : Rows) (receipt : ExecutionReceipt) : Prop :=
  context.Admits receipt ∧
    ∃ latest, readLatest rows receipt.taskId = .ok latest ∧ Continues receipt latest

/-- The latest receipt ends when it has started, and its date-times have no offset. -/
theorem latest_lasts (reads : ReadsUtc column) (stored : rows.Stored column)
    {prior : ExecutionReceipt} (read : readLatest rows receipt.taskId = .ok (some prior)) :
    prior.startedAt.instant ≤ prior.endedAt.instant ∧ prior.endedAt.offset = none := by
  rcases readLatest_ok read with ⟨none_, -⟩ | ⟨again, row, same, inside, found⟩
  · cases none_
  · obtain rfl := Option.some.inj same
    obtain ⟨-, started, ended⟩ := fromRow_fields found
    rw [started, ended]
    exact stored.lasts reads inside

theorem readLatest_unique {other : Option ExecutionReceipt}
    (read : readLatest rows receipt.taskId = .ok latest)
    (again : readLatest rows receipt.taskId = .ok other) : other = latest :=
  Except.ok.inj (again.symm.trans read)

theorem submitReceipt_takes (reads : ReadsUtc column) (stored : rows.Stored column)
    (acceptable : executionReceiptSignatureAcceptable signing context.settings receipt = true) :
    (∃ checked, submitReceipt signing context rows receipt = .ok checked) ↔
      Next context rows receipt := by
  constructor
  · rintro ⟨checked, accepted⟩
    obtain ⟨⟨admits, -, latest, read, continues, -⟩, -⟩ := submitReceipt_ok.mp accepted
    exact ⟨admits, latest, read, continues⟩
  · rintro ⟨admits, latest, read, continues⟩
    refine ⟨receipt, submitReceipt_ok.mpr ⟨⟨admits, acceptable, latest, read, continues, ?_⟩, rfl⟩⟩
    -- the latest receipt has ended, so it has started
    rintro prior rfl
    exact (latest_lasts reads stored read).1.trans continues.2

theorem runtimeSubmitReceipt_takes (authorizes : ctx.Authorizes signing receipt)
    (read : readLatest rows receipt.taskId = .ok latest) :
    (∃ checked, runtimeSubmitReceipt signing context ctx rows receipt = .ok checked) ↔
      Next context rows receipt ∧ Comparable receipt latest := by
  constructor
  · rintro ⟨checked, accepted⟩
    obtain ⟨⟨admits, -, other, again, continues, comparable⟩, -⟩ :=
      runtimeSubmitReceipt_ok.mp accepted
    exact ⟨⟨admits, other, again, continues⟩, readLatest_unique read again ▸ comparable⟩
  · rintro ⟨⟨admits, other, again, continues⟩, comparable⟩
    exact ⟨_, runtimeSubmitReceipt_ok.mpr ⟨⟨admits, authorizes, other, again, continues,
      (readLatest_unique read again).symm ▸ comparable⟩, rfl⟩⟩

/-- Only a task that has receipts is compared with. -/
theorem comparable_iff (reads : ReadsUtc column) (stored : rows.Stored column)
    (read : readLatest rows receipt.taskId = .ok latest) : Comparable receipt latest ↔
      receipt.startedAt.offset = none ∨ rows.ofTask receipt.taskId = [] := by
  rcases readLatest_ok read with ⟨rfl, none_⟩ | ⟨prior, row, rfl, inside, -⟩
  · exact iff_of_true (fun _ nothing => absurd nothing (Option.not_mem_none _)) (.inr none_)
  · have ended := (latest_lasts reads stored read).2
    have some_ : rows.ofTask receipt.taskId ≠ [] := List.ne_nil_of_mem inside
    simp only [Comparable, Option.mem_def, Option.some.injEq, forall_eq', ended, some_, or_false,
      Option.isSome_none, Option.isSome_eq_false_iff, Option.isNone_iff_eq_none]

/-- The two routes take the same receipt unless it is the next one of a task that has receipts
and its start has an offset. -/
theorem routes_agree (reads : ReadsUtc column) (stored : rows.Stored column)
    (acceptable : executionReceiptSignatureAcceptable signing context.settings receipt = true)
    (authorizes : ctx.Authorizes signing receipt) :
    ((∃ checked, submitReceipt signing context rows receipt = .ok checked) ↔
      ∃ checked, runtimeSubmitReceipt signing context ctx rows receipt = .ok checked) ↔
      (receipt.startedAt.offset = none ∨ rows.ofTask receipt.taskId = [] ∨
        ¬Next context rows receipt) := by
  obtain ⟨latest, read⟩ := exists_readLatest stored receipt.taskId
  rw [submitReceipt_takes reads stored acceptable, runtimeSubmitReceipt_takes authorizes read,
    comparable_iff reads stored read, ← or_assoc, iff_self_and]
  exact imp_iff_or_not

end Routes

/-! ## Every step -/

section Steps

variable {column : DateTime → DateTime} {signing : Signing} {world next : World} {action : Action}
  {client : Client} {stage : Option Stage} {receipt : ExecutionReceipt} {rows : Rows}

theorem Follows.mono {more : Rows} (follows : Follows rows receipt)
    (kept : ∀ taskId, rows.ofTask taskId ⊆ more.ofTask taskId) : Follows more receipt := by
  refine ⟨follows.lasts, follows.follows.imp_right ?_⟩
  rintro ⟨prior, inside, after⟩
  exact ⟨prior, kept _ inside, after⟩

theorem World.Sound.suspend (sound : world.Sound column)
    (ready : ∀ suspended ∈ stage, Follows world.rows suspended.receipt) :
    (world.suspend client stage).Sound column := by
  refine ⟨sound.chained, sound.stored, fun other suspended waiting => ?_⟩
  change Function.update world.pending client stage other = some suspended at waiting
  by_cases here : other = client
  · subst here
    rw [Function.update_self] at waiting
    exact ready suspended waiting
  · rw [Function.update_of_ne here] at waiting
    exact sound.ready other suspended waiting

theorem World.Sound.insert (sound : world.Sound column) (reads : ReadsUtc column)
    (follows : Follows world.rows receipt)
    (inserted : Receipts.insert column world.rows receipt = .ok rows) :
    World.Sound column { world with rows } ∧
      ∀ receiptId row, world.rows.get receiptId = some row → rows.get receiptId = some row := by
  simp only [Receipts.insert, require_bind_eq_ok] at inserted
  obtain ⟨free, inserted⟩ := inserted
  obtain rfl := Except.ok.inj inserted
  have fresh : world.rows.get receipt.receiptId = none :=
    Option.not_isSome_iff_eq_none.mp fun taken => free (.inl taken)
  have kept (taskId : TaskId) : world.rows.ofTask taskId ⊆
      Rows.ofTask (world.rows.set receipt.receiptId (toRow column receipt)) taskId := by
    rw [ofTask_set fresh]
    split
    · exact List.subset_cons_self _ _
    · exact List.Subset.refl _
  refine ⟨⟨sound.chained.insert reads follows free,
    sound.stored.set ⟨receipt, rfl, follows.lasts⟩,
    fun client stage waiting => (sound.ready client stage waiting).mono kept⟩, ?_⟩
  intro receiptId row there
  have other : receiptId ≠ receipt.receiptId := by
    rintro rfl
    exact Option.some_ne_none _ (there.symm.trans fresh)
  exact (Table.get_set_of_ne other).trans there

theorem perform_ask {context : Context} {route : Route}
    (step : perform column signing world (.ask client context route receipt) = some next) :
    next = world ∨ ∃ checked, route.accept signing context world.rows receipt = .ok checked ∧
      next = world.suspend client (some (.checked checked)) := by
  cases waiting : world.pending client with
  | some stage => simp [perform, waiting] at step
  | none =>
      simp only [perform, waiting] at step
      cases accepted : route.accept signing context world.rows receipt with
      | ok checked =>
          rw [accepted] at step
          exact .inr ⟨checked, rfl, (Option.some.inj step).symm⟩
      | error error =>
          rw [accepted] at step
          exact .inl (Option.some.inj step).symm

theorem perform_lookUp (step : perform column signing world (.lookUp client) = some next) :
    next = world.suspend client none ∨ ∃ receipt, world.pending client = some (.checked receipt) ∧
      next = world.suspend client (some (.absent receipt)) := by
  cases waiting : world.pending client with
  | none => simp [perform, waiting] at step
  | some stage =>
      cases stage with
      | absent receipt => simp [perform, waiting] at step
      | checked receipt =>
          simp only [perform, waiting] at step
          split at step
          · exact .inr ⟨receipt, rfl, (Option.some.inj step).symm⟩
          · exact .inl (Option.some.inj step).symm

theorem perform_insert (step : perform column signing world (.insert client) = some next) :
    next = world.suspend client none ∨
      ∃ receipt rows, world.pending client = some (.absent receipt) ∧
        Receipts.insert column world.rows receipt = .ok rows ∧
        next = World.suspend { world with rows } client none := by
  cases waiting : world.pending client with
  | none => simp [perform, waiting] at step
  | some stage =>
      cases stage with
      | checked receipt => simp [perform, waiting] at step
      | absent receipt =>
          simp only [perform, waiting] at step
          cases inserted : Receipts.insert column world.rows receipt with
          | ok rows =>
              rw [inserted] at step
              exact .inr ⟨receipt, rows, rfl, inserted, (Option.some.inj step).symm⟩
          | error error =>
              rw [inserted] at step
              exact .inl (Option.some.inj step).symm

/-- Every row is there unchanged. -/
def World.Keeps (world next : World) : Prop :=
  ∀ receiptId row, world.rows.get receiptId = some row → next.rows.get receiptId = some row

theorem World.Sound.idle (sound : world.Sound column) (client : Client) :
    (world.suspend client none).Sound column :=
  sound.suspend fun _ nothing => absurd nothing (Option.not_mem_none _)

/-- A step keeps the table sound and every row as it is. -/
theorem step_sound (reads : ReadsUtc column) (sound : world.Sound column)
    (step : (system column signing).Step world action next) :
    next.Sound column ∧ world.Keeps next := by
  cases action with
  | ask client context route receipt =>
      rcases perform_ask step with rfl | ⟨checked, accepted, rfl⟩
      · exact ⟨sound, fun _ _ there => there⟩
      · refine ⟨sound.suspend fun suspended same => ?_, fun _ _ there => there⟩
        obtain rfl := Option.some.inj same
        exact accept_follows accepted
  | lookUp client =>
      rcases perform_lookUp step with rfl | ⟨receipt, waiting, rfl⟩
      · exact ⟨sound.idle client, fun _ _ there => there⟩
      · have ready := sound.ready client _ waiting
        refine ⟨sound.suspend fun suspended same => ?_, fun _ _ there => there⟩
        obtain rfl := Option.some.inj same
        exact ready
  | insert client =>
      rcases perform_insert step with rfl | ⟨receipt, rows, waiting, inserted, rfl⟩
      · exact ⟨sound.idle client, fun _ _ there => there⟩
      · obtain ⟨after, kept⟩ := sound.insert reads (sound.ready client _ waiting) inserted
        exact ⟨after.idle client, kept⟩

end Steps

/-! ## Every run -/

section Runs

variable {column : DateTime → DateTime} {signing : Signing} {world : World}

theorem sound_of_reachable (reads : ReadsUtc column)
    (reachable : (system column signing).Reachable world) : world.Sound column := by
  refine reachable.invariant (fun world initial => ?_) fun world action next _ sound step => ?_
  · have empty : world = {} := initial
    rw [empty]
    refine ⟨⟨fun taskId => .refl _, fun _ _ inside => absurd inside List.not_mem_nil⟩,
      Table.every_empty _, fun _ _ waiting => absurd waiting.symm (Option.some_ne_none _)⟩
  · exact (step_sound reads sound step).1

/-- What stands in the table at some time stands there ever after. -/
theorem keeps_of_run (reads : ReadsUtc column)
    (reachable : (system column signing).Reachable world) {actions : List Action} {later : World}
    (run : (system column signing).Run world actions later) : world.Keeps later := by
  refine run.preserves_reachable (fun middle action next before kept step => ?_) reachable
    fun _ _ there => there
  obtain ⟨-, further⟩ := step_sound reads (sound_of_reachable reads before) step
  exact fun receiptId row there => further receiptId row (kept receiptId row there)

/-- In every state the receipts of a task are chained, they stay as they are, and the two routes
agree on exactly the receipts that can be compared as they come, or cannot be next. -/
theorem receipts_chained (reads : ReadsUtc column)
    (reachable : (system column signing).Reachable world) :
    world.rows.Chained ∧
      (∀ actions later, (system column signing).Run world actions later → world.Keeps later) ∧
      ∀ (context : Context) (ctx : RuntimeKeyContext) (receipt : ExecutionReceipt),
        executionReceiptSignatureAcceptable signing context.settings receipt = true →
        ctx.Authorizes signing receipt →
        (((∃ checked, submitReceipt signing context world.rows receipt = .ok checked) ↔
          ∃ checked, runtimeSubmitReceipt signing context ctx world.rows receipt = .ok checked) ↔
          (receipt.startedAt.offset = none ∨ world.rows.ofTask receipt.taskId = [] ∨
            ¬Next context world.rows receipt)) := by
  have sound := sound_of_reachable reads reachable
  refine ⟨sound.chained, fun actions later run => keeps_of_run reads reachable run, ?_⟩
  intro context ctx receipt acceptable authorizes
  exact routes_agree reads sound.stored acceptable authorizes

end Runs

/-! ## A task with two receipts -/

/-- The error of a request that is refused. -/
def refusal {α : Type} : Except HttpError α → Option HttpError
  | .error error => some error
  | .ok _ => none

namespace Demo

/-- A signing service with one signature. -/
def signing : Signing where
  sign _ := "signature"
  verify _ signature := signature = "signature"

/-- Noon on the first of January 2024, in UTC. -/
def noon : DateTime := ⟨1704110400000000, some 0⟩

def context : Context where
  now := noon.wall
  contracts taskId := taskId = "t"

def key : RuntimeKeyContext where
  karmaIdentityId := "worker"
  profileId := none
  permissions := ["submit_receipt"]
  ready _ := true

/-- The receipt after `before` others. -/
def receipt (before : Nat) : ExecutionReceipt where
  receiptId := if before = 0 then "first" else "second"
  taskId := "t"
  agentId := "worker"
  stepIndex := before + 1
  toolName := "tool"
  inputHash := .ofList (List.replicate 64 'a')
  outputHash := .ofList (List.replicate 64 'b')
  startedAt := noon
  endedAt := noon
  durationMs := 0
  status := .success
  signature := some "signature"
  firstStep := Nat.le_add_left 1 before

/-- The first receipt is saved. -/
def begun : Scene (perform DateTime.utc signing) {} where
  actions := [.ask 0 context .submitReceipt (receipt 0), .lookUp 0, .insert 0]
  possible := by decide +kernel

theorem begun_run : (system DateTime.utc signing).Run {} begun.actions begun.world :=
  begun.run fun _ _ _ performed => performed

theorem begun_reachable : (system DateTime.utc signing).Reachable begun.world :=
  ⟨{}, begun.actions, rfl, begun_run⟩

theorem key_authorizes : key.Authorizes signing (receipt 1) :=
  ⟨by decide, by decide, rfl, by decide +kernel⟩

end Demo

/-- The routes do not agree on the second receipt of a task: its start has an offset. -/
theorem receipts_chained_begun :
    ¬((∃ checked, submitReceipt Demo.signing Demo.context Demo.begun.world.rows (Demo.receipt 1) =
        .ok checked) ↔
      ∃ checked, runtimeSubmitReceipt Demo.signing Demo.context Demo.key Demo.begun.world.rows
        (Demo.receipt 1) = .ok checked) := by
  have chained := receipts_chained (fun _ => rfl) Demo.begun_reachable
  have accepted : (submitReceipt Demo.signing Demo.context Demo.begun.world.rows
      (Demo.receipt 1)).toOption.isSome = true := by decide +kernel
  obtain ⟨checked, taken⟩ := Option.isSome_iff_exists.mp accepted
  have next := (submitReceipt_ok.mp (toOption_eq_some.mp taken)).1
  rw [chained.2.2 Demo.context Demo.key (Demo.receipt 1) (by decide +kernel) Demo.key_authorizes]
  rintro (offset | none_ | last)
  · exact absurd offset (by decide)
  · exact absurd none_ (by decide +kernel)
  · obtain ⟨admits, -, latest, read, continues, -⟩ := next
    exact last ⟨admits, latest, read, continues⟩

/-- The direct route takes the second receipt of a task; the runtime route fails to compare its
start. -/
theorem not_routes_agree :
    (system DateTime.utc Demo.signing).Reachable Demo.begun.world ∧
      Demo.key.Authorizes Demo.signing (Demo.receipt 1) ∧
      (submitReceipt Demo.signing Demo.context Demo.begun.world.rows
        (Demo.receipt 1)).toOption.isSome = true ∧
      refusal (runtimeSubmitReceipt Demo.signing Demo.context Demo.key Demo.begun.world.rows
        (Demo.receipt 1)) =
          some ⟨500, "can't compare offset-naive and offset-aware datetimes"⟩ :=
  ⟨Demo.begun_reachable, Demo.key_authorizes, by decide +kernel, by decide +kernel⟩

end TrustChain.Receipts
