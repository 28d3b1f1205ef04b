import TrustChain.Library.Search
import TrustChain.Service.Books
import TrustChain.Service.Frames

/-!
# Payment cycles

Locking a settlement is refused if its worker pays its buyer over the settlements under way. The
check searches the edges that are stored when it is made, and the lock is saved later. The graph
stays acyclic exactly in the runs in which the check still holds when a lock is saved, and when a
settlement that was over is taken up again.
-/

namespace TrustChain.Service

open Library Relation

/-- A locked settlement under way, from its buyer to its worker. -/
def Db.Pays (db : Db) (buyer worker : IdentityId) : Prop :=
  ∃ taskId row, db.settlements.get taskId = some row ∧ ¬row.status.Terminal ∧
    row.clientAgentId = buyer ∧ row.workerAgentId = some worker

/-- The loop of the search ends before its rounds are used up, with the answer. -/
theorem searchEdges_eq (edges : List (IdentityId × IdentityId)) (buyerId : IdentityId)
    (rounds : Nat) (stack seen : List IdentityId) :
    searchEdges edges buyerId rounds stack seen =
      (search edges buyerId rounds stack seen).getD false := by
  induction rounds generalizing stack seen with
  | zero => rfl
  | succ rounds ih =>
      match stack with
      | [] => rfl
      | node :: stack =>
          rw [searchEdges, search]
          split
          · rfl
          · split
            · exact ih stack seen
            · exact ih _ _

/-- The search finds the buyer exactly if a path leads there from the worker. -/
theorem workerReachesBuyerOnEdges_iff {edges : List (IdentityId × IdentityId)}
    {workerId buyerId : IdentityId} :
    workerReachesBuyerOnEdges edges workerId buyerId = true ↔
      workerId ≠ buyerId ∧ ReflTransGen (Adjacent edges) workerId buyerId := by
  have searched : ∃ found, search edges buyerId (edges.length + 2) [workerId] [] = some found ∧
      (found = true ↔ ReflTransGen (Adjacent edges) workerId buyerId) := search_from le_rfl workerId
  obtain ⟨found, ended, answers⟩ := searched
  rw [workerReachesBuyerOnEdges, searchEdges_eq, ended, Option.getD_some]
  by_cases same : workerId = buyerId
  · simp [same]
  · rw [if_neg same, answers, and_iff_right same]

/-! ## Lock requests in two parts -/

section Locks

variable (request : Request) (db : Db)

/-- `lock_settlement` up to its check, with the state that it will save. -/
def checkLock (taskId : TaskId) (workerAgentId : IdentityId) :
    Except HttpError SettlementState := do
  let state ← openTask request db taskId .newTask
  requireBuyer request state
  require (workerAgentId ≠ state.clientAgentId)
    ⟨409, "worker_agent_id cannot equal settlement buyer (client_agent_id)"⟩
  assertLockDoesNotClosePaymentCycle request db taskId state.clientAgentId workerAgentId
  require (¬(request.config.settlementLockRequiresPending = true ∧ state.status = .draft))
    ⟨409, "settlement must be moved to pending before lock (settlement_lock_requires_pending)"⟩
  .ok { state with workerAgentId := some workerAgentId }

/-- The rest of `lock_settlement`. -/
def saveLock (state : SettlementState) : Except HttpError Db :=
  applyTransition request db state .accepted

/-- A lock request is its check and its save, over whatever is stored then. -/
theorem lockSettlement_eq (taskId : TaskId) (workerAgentId : IdentityId) :
    lockSettlement request db taskId workerAgentId =
      checkLock request db taskId workerAgentId >>= saveLock request db := by
  simp only [lockSettlement, checkLock, saveLock, bind_assoc, ok_bind]

/-- A change of the status that the transition table admits. -/
def moveStatus (taskId : TaskId) (target : TaskStatus) : Except HttpError Db := do
  let state ← getSettlement db taskId
  applyTransition request db state target

end Locks

/-- A lock request between its check and its save. -/
structure LockSession where
  request : Request
  state : SettlementState

structure LockWorld where
  world : World := {}
  sessions : List LockSession := []

inductive LockAction where
  | request (request : Request) (call : Call)
  | setPauses (pauses : Pauses)
  | checkLock (request : Request) (taskId : TaskId) (workerAgentId : IdentityId)
  | saveLock (session : Nat)
  | moveStatus (request : Request) (taskId : TaskId) (target : TaskStatus)

def Call.isLockSettlement : Call → Bool
  | .lockSettlement .. => true
  | _ => false

def LockWorld.withDb (world : LockWorld) (db : Db) : LockWorld :=
  { world with world := { world.world with db } }

/-- Requests are transactions, except that a lock is checked in one step and saved in another. -/
def performLock (config : Config) (world : LockWorld) : LockAction → Option LockWorld
  | .request request call =>
      if call.isLockSettlement then none
      else
        (dispatch (request.within config world.world.pauses) world.world.db call).toOption.map
          world.withDb
  | .setPauses pauses => some { world with world := { world.world with pauses } }
  | .checkLock request taskId workerAgentId =>
      (checkLock (request.within config world.world.pauses) world.world.db taskId
        workerAgentId).toOption.map fun state => { world with
          sessions := world.sessions ++ [⟨request.within config world.world.pauses, state⟩] }
  | .saveLock session =>
      world.sessions[session]?.bind fun open_ =>
        (saveLock open_.request world.world.db open_.state).toOption.map fun db =>
          { world.withDb db with sessions := world.sessions.eraseIdx session }
  | .moveStatus request taskId target =>
      (moveStatus (request.within config world.world.pauses) world.world.db taskId
        target).toOption.map world.withDb

/-- The service with lock requests in two parts, from an empty database. -/
def lockSystem (config : Config) : TransitionSystem LockWorld LockAction where
  Init world := world.world.db = {} ∧ world.sessions = []
  Step world action next := performLock config world action = some next

/-- The check of a lock holds of what is stored. -/
def Db.LeavesOpen (db : Db) (state : SettlementState) : Prop :=
  ∀ worker ∈ state.workerAgentId,
    workerReachesBuyerOnEdges (activeEdges db state.taskId) worker state.clientAgentId = false

/-- A lock is saved, and a settlement that was over is taken up again, while the check holds. -/
def LockAction.Guarded (world : LockWorld) : LockAction → Prop
  | .saveLock session =>
      ∀ open_ ∈ world.sessions[session]?, world.world.db.LeavesOpen open_.state
  | .moveStatus _ taskId target =>
      ∀ row ∈ world.world.db.settlements.get taskId, row.status.Terminal →
        ¬(canonicalTaskStatus target).Terminal → world.world.db.LeavesOpen row
  | _ => True

/-! ## Edges -/

section Edges

variable {db : Db} {taskId : TaskId} {row state : SettlementState} {buyer worker : IdentityId}

theorem adjacent_activeEdges : Adjacent (activeEdges db taskId) buyer worker ↔
    ∃ other row, other ≠ taskId ∧ db.settlements.get other = some row ∧ ¬row.status.Terminal ∧
      row.clientAgentId = buyer ∧ row.workerAgentId = some worker := by
  unfold Adjacent activeEdges
  rw [List.mem_filterMap]
  constructor
  · rintro ⟨⟨other, row⟩, inside, edge⟩
    split at edge
    case isTrue active =>
      obtain ⟨named, assigned, same⟩ := Option.map_eq_some_iff.mp edge
      obtain ⟨rfl, rfl⟩ := Prod.mk.inj same
      exact ⟨other, row, active.1, Table.mem_rows_iff.mp inside, active.2, rfl, assigned⟩
    case isFalse => cases edge
  · rintro ⟨other, row, different, there, live, rfl, assigned⟩
    refine ⟨(other, row), Table.mem_rows_iff.mpr there, ?_⟩
    rw [if_pos ⟨different, live⟩, assigned]
    rfl

theorem pays_of_adjacent (edge : Adjacent (activeEdges db taskId) buyer worker) :
    db.Pays buyer worker := by
  obtain ⟨other, row, -, there, live, client, assigned⟩ := adjacent_activeEdges.mp edge
  exact ⟨other, row, there, live, client, assigned⟩

/-- Storing a settlement leaves the edges of the others and adds its own. -/
theorem pays_iff_of_set {settlements : Table TaskId SettlementState}
    (stored : settlements = db.settlements.set taskId row) :
    ({ db with settlements } : Db).Pays buyer worker ↔
      Adjacent (activeEdges db taskId) buyer worker ∨
        (¬row.status.Terminal ∧ row.clientAgentId = buyer ∧ row.workerAgentId = some worker) := by
  subst stored
  rw [adjacent_activeEdges]
  constructor
  · rintro ⟨other, found, there, live, client, assigned⟩
    change (db.settlements.set taskId row).get other = some found at there
    rcases Table.get_set_eq_some.mp there with ⟨-, rfl⟩ | ⟨different, there⟩
    · exact .inr ⟨live, client, assigned⟩
    · exact .inl ⟨other, found, different, there, live, client, assigned⟩
  · rintro (⟨other, found, different, there, live, client, assigned⟩ | ⟨live, client, assigned⟩)
    · exact ⟨other, found, (Table.get_set_of_ne different).trans there, live, client, assigned⟩
    · exact ⟨taskId, row, Table.get_set_self _ _ _, live, client, assigned⟩

/-- The check is that no path leads back over the other settlements under way. -/
theorem leavesOpen_iff (assigned : state.workerAgentId = some worker)
    (distinct : worker ≠ state.clientAgentId) :
    db.LeavesOpen state ↔
      ¬ReflTransGen (Adjacent (activeEdges db state.taskId)) worker state.clientAgentId := by
  unfold Db.LeavesOpen
  rw [assigned]
  simp only [Option.mem_def, Option.some.injEq, forall_eq']
  rw [Bool.eq_false_iff, Ne, workerReachesBuyerOnEdges_iff, and_iff_right distinct]

end Edges

/-! ## Every step -/

/-- No settlement has its buyer as its worker, and no lock request asks for that. -/
structure LockWorld.Sound (world : LockWorld) : Prop where
  wellFormed : world.world.db.WellFormed
  distinct : world.world.db.settlements.Every fun _ row =>
    row.workerAgentId ≠ some row.clientAgentId
  sessions : ∀ session ∈ world.sessions, ∃ worker,
    session.state.workerAgentId = some worker ∧ worker ≠ session.state.clientAgentId

section Steps

variable {config : Config} {request : Request} {db after : Db} {call : Call} {taskId : TaskId}
  {row state : SettlementState} {target : TaskStatus}

/-- A request that is no lock keeps who works for whom, and takes up nothing that was over. -/
theorem dispatch_hands (wellFormed : db.WellFormed) (ran : dispatch request db call = .ok after)
    (other : call.isLockSettlement = false) (there : after.settlements.get taskId = some row) :
    row.workerAgentId = none ∨ ∃ old, db.settlements.get taskId = some old ∧
      row.clientAgentId = old.clientAgentId ∧ row.workerAgentId = old.workerAgentId ∧
      (old.status.Terminal → row.status.Terminal) := by
  have unlocked : ¬call.Locks taskId := by
    cases call with
    | lockSettlement => cases other
    | _ => exact id
  cases dispatch_rowOrigin wellFormed ran there with
  | created body voucher _ _ _ _ is => exact .inl (is ▸ rfl)
  | carried old was kept =>
      refine .inr ⟨old, was, ?_⟩
      cases (dispatch_effect wellFormed ran).1.origin there with
      | kept again =>
          obtain rfl := Option.some.inj (was.symm.trans again)
          exact ⟨rfl, rfl, id⟩
      | moved before again live same =>
          obtain rfl := Option.some.inj (was.symm.trans again)
          exact ⟨same.clientAgentId, kept.workerAgentId unlocked,
            fun terminal => absurd terminal live⟩
      | created body _ fresh => exact nomatch was.symm.trans fresh

theorem dispatch_pays (wellFormed : db.WellFormed) (ran : dispatch request db call = .ok after)
    (other : call.isLockSettlement = false) {buyer worker : IdentityId}
    (edge : after.Pays buyer worker) : db.Pays buyer worker := by
  obtain ⟨taskId, row, there, live, rfl, assigned⟩ := edge
  rcases dispatch_hands wellFormed ran other there with free | ⟨old, was, client, same, ended⟩
  · exact nomatch free.symm.trans assigned
  · exact ⟨taskId, old, was, fun terminal => live (ended terminal), client.symm,
      same.symm.trans assigned⟩

/-- A state is stored over the row of its task, in a canonical status. -/
theorem wellFormed_transition {asked : Request} (wellFormed : db.WellFormed)
    (ran : applyTransition asked db state target = .ok after) : after.WellFormed := by
  obtain ⟨-, audits, rfl⟩ := transition_ok ran
  refine ⟨wellFormed.keyed.set rfl, wellFormed.canonical.set ?_, wellFormed.claims,
    wellFormed.votes, wellFormed.cases⟩
  exact stage_stage (state.moveTo target asked.now)

/-- What a transition leaves: the edges of the others, and its own if it is not over. -/
theorem transition_pays {asked : Request} {buyer worker : IdentityId}
    (ran : applyTransition asked db state target = .ok after) :
    after.Pays buyer worker ↔ Adjacent (activeEdges db state.taskId) buyer worker ∨
      (¬(canonicalTaskStatus target).Terminal ∧ state.clientAgentId = buyer ∧
        state.workerAgentId = some worker) := by
  obtain ⟨-, audits, rfl⟩ := transition_ok ran
  exact pays_iff_of_set rfl

/-- A transition of a state with a worker, from an acyclic graph. -/
theorem acyclic_transition_iff {asked : Request} {worker : IdentityId}
    (acyclic : Acyclic db.Pays) (assigned : state.workerAgentId = some worker)
    (distinct : worker ≠ state.clientAgentId) (live : ¬(canonicalTaskStatus target).Terminal)
    (ran : applyTransition asked db state target = .ok after) :
    db.LeavesOpen state ↔ Acyclic after.Pays := by
  have edges : ∀ buyer other, after.Pays buyer other ↔
      WithEdge (Adjacent (activeEdges db state.taskId)) state.clientAgentId worker buyer other := by
    intro buyer other
    refine (transition_pays ran).trans (or_congr_right ?_)
    constructor
    · rintro ⟨-, rfl, same⟩
      exact ⟨rfl, Option.some.inj (same.symm.trans assigned)⟩
    · rintro ⟨rfl, rfl⟩
      exact ⟨live, rfl, assigned⟩
  have others : Acyclic (Adjacent (activeEdges db state.taskId)) :=
    acyclic.mono fun _ _ => pays_of_adjacent
  rw [leavesOpen_iff assigned distinct, ← and_iff_right others (b := ¬ReflTransGen _ _ _),
    ← acyclic_withEdge_iff]
  exact ⟨fun open_ => open_.mono fun _ _ edge => (edges _ _).mp edge,
    fun closed => closed.mono fun _ _ edge => (edges _ _).mpr edge⟩

theorem checkLock_ok {workerAgentId : IdentityId}
    (ran : checkLock request db taskId workerAgentId = .ok state) :
    state.workerAgentId = some workerAgentId ∧ workerAgentId ≠ state.clientAgentId := by
  simp only [checkLock, bind_eq_ok, require_eq_ok] at ran
  obtain ⟨_, -, _, -, _, distinct, _, -, _, -, checked⟩ := ran
  obtain rfl := Except.ok.inj checked
  exact ⟨rfl, distinct⟩

theorem moveStatus_ok (ran : moveStatus request db taskId target = .ok after) :
    ∃ row, db.settlements.get taskId = some row ∧
      applyTransition request db row.fromRow target = .ok after := by
  simp only [moveStatus, bind_eq_ok, getSettlement_eq_ok] at ran
  obtain ⟨_, ⟨row, there, rfl⟩, moved⟩ := ran
  exact ⟨row, there, moved⟩

variable {world next : LockWorld} {action : LockAction}

/-- The condition on a change of status is exactly what keeps the graph acyclic. -/
theorem moveStatus_guarded_iff {asked : Request} (sound : world.Sound)
    (acyclic : Acyclic world.world.db.Pays)
    (ran : moveStatus asked world.world.db taskId target = .ok after) :
    (LockAction.moveStatus request taskId target).Guarded world ↔ Acyclic after.Pays := by
  obtain ⟨row, there, moved⟩ := moveStatus_ok ran
  have condition : (LockAction.moveStatus request taskId target).Guarded world ↔
      (row.status.Terminal → ¬(canonicalTaskStatus target).Terminal →
        world.world.db.LeavesOpen row) := by
    simp only [LockAction.Guarded, there, Option.mem_def, Option.some.injEq, forall_eq']
  rw [condition]
  by_cases takenUp : row.status.Terminal ∧ ¬(canonicalTaskStatus target).Terminal
  · obtain ⟨terminal, live⟩ := takenUp
    rw [imp_iff_right terminal, imp_iff_right live]
    cases assigned : row.workerAgentId with
    | none =>
        -- a settlement without a worker has no edge
        have free : world.world.db.LeavesOpen row := by
          intro worker hired
          cases assigned.symm.trans hired
        refine iff_of_true free (acyclic.mono fun _ _ edge => ?_)
        rcases (transition_pays moved).mp edge with other | ⟨-, -, hired⟩
        · exact pays_of_adjacent other
        · cases assigned.symm.trans hired
    | some worker =>
        have distinct : worker ≠ row.clientAgentId := by
          rintro rfl
          exact sound.distinct taskId row there assigned
        have hired : row.fromRow.workerAgentId = some worker := assigned
        have guarded := acyclic_transition_iff acyclic hired distinct live moved
        exact guarded
  · -- no edge is new
    refine iff_of_true (fun terminal live => absurd ⟨terminal, live⟩ takenUp) ?_
    refine acyclic.mono fun _ _ edge => ?_
    rcases (transition_pays moved).mp edge with other | ⟨live, client, hired⟩
    · exact pays_of_adjacent other
    · exact ⟨taskId, row, there, fun terminal => takenUp ⟨terminal, live⟩, client, hired⟩

theorem lock_step_iff : (lockSystem config).Step world action next ↔
    performLock config world action = some next := Iff.rfl

/-- The condition on a step is exactly what keeps the graph acyclic. -/
theorem guarded_iff (sound : world.Sound) (acyclic : Acyclic world.world.db.Pays)
    (step : (lockSystem config).Step world action next) :
    action.Guarded world ↔ Acyclic next.world.db.Pays := by
  rw [lock_step_iff] at step
  cases action with
  | request request call =>
      rw [performLock] at step
      split at step
      case isTrue => cases step
      case isFalse other =>
        obtain ⟨db, ran, rfl⟩ := Option.map_eq_some_iff.mp step
        refine iff_of_true trivial (acyclic.mono fun _ _ edge => ?_)
        exact dispatch_pays sound.wellFormed (toOption_eq_some.mp ran)
          (Bool.eq_false_iff.mpr other) edge
  | setPauses pauses =>
      obtain rfl := Option.some.inj step
      exact iff_of_true trivial acyclic
  | checkLock request taskId worker =>
      obtain ⟨state, -, rfl⟩ := Option.map_eq_some_iff.mp step
      exact iff_of_true trivial acyclic
  | saveLock session =>
      obtain ⟨open_, found, saved⟩ := Option.bind_eq_some_iff.mp step
      obtain ⟨db, ran, rfl⟩ := Option.map_eq_some_iff.mp saved
      obtain ⟨worker, assigned, distinct⟩ := sound.sessions open_ (List.mem_of_getElem? found)
      have condition : (LockAction.saveLock session).Guarded world ↔
          world.world.db.LeavesOpen open_.state := by
        simp only [LockAction.Guarded, found, Option.mem_def, Option.some.injEq, forall_eq']
      rw [condition]
      exact acyclic_transition_iff acyclic assigned distinct (by decide) (toOption_eq_some.mp ran)
  | moveStatus request taskId target =>
      obtain ⟨db, ran, rfl⟩ := Option.map_eq_some_iff.mp step
      exact moveStatus_guarded_iff sound acyclic (toOption_eq_some.mp ran)

theorem transition_distinct {asked : Request}
    (distinct : db.settlements.Every fun _ row => row.workerAgentId ≠ some row.clientAgentId)
    (state_distinct : state.workerAgentId ≠ some state.clientAgentId)
    (ran : applyTransition asked db state target = .ok after) :
    after.settlements.Every fun _ row => row.workerAgentId ≠ some row.clientAgentId := by
  obtain ⟨-, audits, rfl⟩ := transition_ok ran
  exact distinct.set state_distinct

theorem step_sound (sound : world.Sound) (step : (lockSystem config).Step world action next) :
    next.Sound := by
  obtain ⟨wellFormed, distinct, sessions⟩ := sound
  rw [lock_step_iff] at step
  cases action with
  | request request call =>
      rw [performLock] at step
      split at step
      case isTrue => cases step
      case isFalse other =>
        obtain ⟨db, ran, rfl⟩ := Option.map_eq_some_iff.mp step
        rw [toOption_eq_some] at ran
        refine ⟨dispatch_wellFormed wellFormed ran, fun taskId row there => ?_, sessions⟩
        rcases dispatch_hands wellFormed ran (Bool.eq_false_iff.mpr other) there with
          free | ⟨old, was, client, same, -⟩
        · simp [free]
        · rw [client, same]
          exact distinct taskId old was
  | setPauses pauses =>
      obtain rfl := Option.some.inj step
      exact ⟨wellFormed, distinct, sessions⟩
  | checkLock request taskId worker =>
      obtain ⟨state, checked, rfl⟩ := Option.map_eq_some_iff.mp step
      have asked := checkLock_ok (toOption_eq_some.mp checked)
      refine ⟨wellFormed, distinct, fun session inside => ?_⟩
      rcases List.mem_append.mp inside with before | new
      · exact sessions session before
      · obtain rfl := List.mem_singleton.mp new
        exact ⟨worker, asked⟩
  | saveLock session =>
      obtain ⟨open_, found, saved⟩ := Option.bind_eq_some_iff.mp step
      obtain ⟨db, ran, rfl⟩ := Option.map_eq_some_iff.mp saved
      rw [toOption_eq_some] at ran
      obtain ⟨worker, assigned, different⟩ := sessions open_ (List.mem_of_getElem? found)
      refine ⟨wellFormed_transition wellFormed ran, transition_distinct distinct ?_ ran,
        fun session inside => sessions session (List.mem_of_mem_eraseIdx inside)⟩
      rw [assigned]
      exact fun same => different (Option.some.inj same)
  | moveStatus request taskId target =>
      obtain ⟨db, ran, rfl⟩ := Option.map_eq_some_iff.mp step
      obtain ⟨row, there, moved⟩ := moveStatus_ok (toOption_eq_some.mp ran)
      have own : row.fromRow.workerAgentId ≠ some row.fromRow.clientAgentId :=
        distinct taskId row there
      exact ⟨wellFormed_transition wellFormed moved, transition_distinct distinct own moved,
        sessions⟩

end Steps

/-! ## Every run -/

section Runs

variable {config : Config} {world next other start finish : LockWorld} {action : LockAction}
  {actions : List LockAction}

theorem lock_unique (step : (lockSystem config).Step world action next)
    (again : (lockSystem config).Step world action other) : next = other :=
  Option.some.inj (Eq.trans (Eq.symm step) again)

theorem lock_reachable_sound (reachable : (lockSystem config).Reachable world) : world.Sound := by
  refine reachable.invariant (fun world initial => ?_) fun world action next _ sound step =>
    step_sound sound step
  obtain ⟨empty, idle⟩ := initial
  refine ⟨empty ▸ wellFormed_empty, empty ▸ Table.every_empty _, fun session inside => ?_⟩
  rw [idle] at inside
  exact absurd inside List.not_mem_nil

theorem acyclic_empty : Acyclic ({} : Db).Pays := by
  have none : ∀ buyer worker, ¬({} : Db).Pays buyer worker := by
    rintro buyer worker ⟨taskId, row, there, -⟩
    exact nomatch (Table.get_empty taskId).symm.trans there
  intro node cycle
  cases cycle with
  | single edge => exact none _ _ edge
  | tail _ edge => exact none _ _ edge

/-- The search ends with the right answer on every edge list. And the graph of the settlements
under way is acyclic throughout a run exactly if every lock is saved, and every settlement that was
over is taken up again, while its check holds. -/
theorem payments_acyclic (initial : (lockSystem config).Init start)
    (run : (lockSystem config).Run start actions finish) :
    (∀ edges workerId buyerId,
      (search edges buyerId (edges.length + 2) [workerId] []).isSome ∧
      (workerReachesBuyerOnEdges edges workerId buyerId = true ↔
        workerId ≠ buyerId ∧ ReflTransGen (Adjacent edges) workerId buyerId)) ∧
    (((lockSystem config).restrict fun world action => action.Guarded world).Run
        start actions finish ↔
      ¬(lockSystem config).Visits start actions finish
        fun world => ¬Acyclic world.world.db.Pays) := by
  constructor
  · intro edges workerId buyerId
    refine ⟨search_isSome ?_, workerReachesBuyerOnEdges_iff⟩
    simp [roundsLeft, Nat.add_comm]
  · refine TransitionSystem.Visits.restrict_iff_not (fun _ _ _ _ => lock_unique) ?_ (.init initial)
      ?_ run
    · intro world action next reachable acyclic step
      rw [not_not] at acyclic ⊢
      exact guarded_iff (lock_reachable_sound reachable) acyclic step
    · rw [not_not, initial.1]
      exact acyclic_empty

end Runs

/-! ## Scenes -/

instance (db : Db) : DecidablePred (Db.LeavesOpen db) := fun state => by
  unfold Db.LeavesOpen
  infer_instance

instance (world : LockWorld) : DecidablePred (LockAction.Guarded world) := fun action => by
  unfold LockAction.Guarded
  split <;> infer_instance

namespace Demo

def performGuarded (world : LockWorld) (action : LockAction) : Option LockWorld :=
  if action.Guarded world then performLock {} world action else none

/-- A settlement of a client is created. -/
def offer (taskId : TaskId) (clientAgentId : IdentityId) : List LockAction :=
  [.request {} (.storeContract taskId),
    .request {} (.createSettlement { taskId, clientAgentId, escrowAmount := 10 })]

/-- Two clients offer each other work. -/
def offers : List LockAction := offer "t" buyer ++ offer "u" seller

/-- One of them locks the other, which is then refused the same. -/
def lockedInTurn : Scene performGuarded {} where
  actions := offers ++ [.checkLock {} "t" seller, .saveLock 0]
  possible := by decide +kernel

/-- Both locks are checked before one is saved. -/
def lockedAtOnce : Scene (performLock {}) {} where
  actions := offers ++
    [.checkLock {} "t" seller, .checkLock {} "u" buyer, .saveLock 0, .saveLock 0]
  possible := by decide +kernel

/-- The settlement of a locked task. -/
def lockedRow (taskId : TaskId) (clientAgentId worker : IdentityId) : SettlementState where
  taskId
  escrowAmount := 10
  status := .accepted
  clientAgentId
  workerAgentId := some worker

end Demo

theorem payments_acyclic_lockedInTurn :
    ¬(lockSystem {}).Visits {} Demo.lockedInTurn.actions Demo.lockedInTurn.world
        (fun world => ¬Acyclic world.world.db.Pays) ∧
      Demo.lockedInTurn.world.world.db.Pays Demo.buyer Demo.seller := by
  have run : ((lockSystem {}).restrict fun world action => action.Guarded world).Run {}
      Demo.lockedInTurn.actions Demo.lockedInTurn.world := by
    apply Demo.lockedInTurn.run
    intro world action next performed
    rw [Demo.performGuarded] at performed
    split at performed
    case isTrue guarded => exact ⟨performed, guarded⟩
    case isFalse => cases performed
  have initial : (lockSystem {}).Init {} := ⟨rfl, rfl⟩
  exact ⟨(payments_acyclic initial run.of_restrict).2.mp run, "t",
    Demo.lockedRow "t" Demo.buyer Demo.seller, by decide +kernel, by decide, rfl, rfl⟩

/-- Two locks that are both checked before one is saved close a cycle. -/
theorem not_payments_acyclic :
    ({} : Config).settlementBlockPaymentCycle = true ∧ (lockSystem {}).Init {} ∧
      (lockSystem {}).Run {} Demo.lockedAtOnce.actions Demo.lockedAtOnce.world ∧
      ¬Acyclic Demo.lockedAtOnce.world.world.db.Pays := by
  refine ⟨rfl, ⟨rfl, rfl⟩, Demo.lockedAtOnce.run fun _ _ _ performed => performed,
    fun acyclic => ?_⟩
  have there : Demo.lockedAtOnce.world.world.db.Pays Demo.buyer Demo.seller :=
    ⟨"t", Demo.lockedRow "t" Demo.buyer Demo.seller, by decide +kernel, by decide, rfl, rfl⟩
  have back : Demo.lockedAtOnce.world.world.db.Pays Demo.seller Demo.buyer :=
    ⟨"u", Demo.lockedRow "u" Demo.seller Demo.buyer, by decide +kernel, by decide, rfl, rfl⟩
  exact acyclic Demo.buyer (.tail (.single there) back)

end TrustChain.Service
