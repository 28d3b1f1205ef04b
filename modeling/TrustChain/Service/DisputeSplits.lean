import TrustChain.Service.DisputeFunds
import TrustChain.Service.Panels
import TrustChain.Service.ReleaseGuard

/-!
# Disputed money is split by arbitration

A disputed task is settled by automatic arbitration or by the execution of its case. The buyer's
partial settlement and regret do not look at the status, and the transition table lets them end
a task whose case is still open. The runs that split disputed money by arbitration alone are
those in which no buyer settles an arbitrated task.
-/

namespace TrustChain.Service

open Library

/-- The dispute of a task is under way, or its escrow has been paid out. -/
def TaskStatus.Disposed (status : TaskStatus) : Prop := status.Contested ∨ status.Resolved

instance : DecidablePred TaskStatus.Disposed := fun _ => inferInstanceAs (Decidable (_ ∨ _))

/-- Automatic arbitration splits the escrow of a task, or the execution of its case does so as
the case has decided. -/
def ArbitrationDecides (world : World) (action : Action) (taskId : TaskId)
    (row next : SettlementState) : Prop :=
  (row.status = .disputed ∧
    ∃ request bundle, action = .request request (.autoArbitrate taskId bundle)) ∨
  ∃ request caseId case_ outcome, action = .request request (.executeArbitrationCase caseId) ∧
    world.db.cases.get caseId = some case_ ∧ case_.taskId = taskId ∧ case_.status = .decided ∧
    case_.decidedOutcome = some outcome ∧
    (next.status, next.releasedAmount, next.refundedAmount) =
      ((decisionSplit outcome case_.finalPartialPercent row.escrowAmount).1,
        some (decisionSplit outcome case_.finalPartialPercent row.escrowAmount).2.1,
        some (decisionSplit outcome case_.finalPartialPercent row.escrowAmount).2.2)

/-- What a step may make of a settlement from its dispute on. -/
def LeftToArbitration (world : World) (action : Action) (taskId : TaskId)
    (row next : SettlementState) : Prop :=
  next = row ∨ (row.status = .disputed ∧ next.status = .arbitrated ∧ row.SameSplit next) ∨
    (row.status.Contested ∧ next.status.Resolved ∧ ArbitrationDecides world action taskId row next)

/-- A step takes the settlement of a disputed task from arbitration. -/
def TakesFromArbitration (world : World) (action : Action) (next : World) : Prop :=
  ∃ taskId row, world.db.settlements.get taskId = some row ∧ row.status.Disposed ∧
    ∀ after, next.db.settlements.get taskId = some after →
      ¬LeftToArbitration world action taskId row after

/-- Some case is open although its task has been paid out. -/
def PaidBeforeExecution (world : World) : Prop :=
  ∃ caseId case_ row, world.db.cases.get caseId = some case_ ∧ case_.status ≠ .executed ∧
    world.db.settlements.get case_.taskId = some row ∧ row.status.Resolved

/-- The buyer does not settle an arbitrated task. -/
def Call.LeavesArbitrated (db : Db) : Call → Prop
  | .partialSettlement taskId _ | .regretSettlement taskId _ =>
      ∀ row ∈ db.settlements.get taskId, row.status ≠ .arbitrated
  | _ => True

def Action.LeavesArbitrated (world : World) : Action → Prop
  | .request _ call => call.LeavesArbitrated world.db
  | .setPauses _ => True

/-! ## Cases -/

/-- Where the row of a case comes from. -/
inductive CaseOrigin (db : Db) (call : Call) (caseId : CaseId) (case_ : ArbitrationCase) : Prop
  | kept : db.cases.get caseId = some case_ → CaseOrigin db call caseId case_
  | updated (old : ArbitrationCase) : db.cases.get caseId = some old →
      case_.taskId = old.taskId → old.status ≠ .executed → CaseOrigin db call caseId case_
  | opened (body : CreateArbitrationCaseRequest) :
      call = .createArbitrationCase caseId body → case_.taskId = body.taskId →
      db.cases.get caseId = none →
      (∀ other old, db.cases.get other = some old → old.taskId ≠ body.taskId) →
      CaseOrigin db call caseId case_

section Cases

variable {request : Request} {db next : Db} {call : Call} {caseId key : CaseId}
  {case_ stored old : ArbitrationCase}

theorem caseOrigin_set
    (there : (db.cases.set key stored).get caseId = some case_) (was : db.cases.get key = some old)
    (task : stored.taskId = old.taskId) (open_ : old.status ≠ .executed) :
    CaseOrigin db call caseId case_ := by
  rcases Table.get_set_eq_some.mp there with ⟨here, rfl⟩ | ⟨-, there⟩
  · exact .updated old (here ▸ was) task open_
  · exact .kept there

theorem createArbitrationCase_opens {body : CreateArbitrationCaseRequest}
    (wellFormed : db.WellFormed) (ran : createArbitrationCase db request caseId body = .ok next) :
    (∀ other old, db.cases.get other = some old → old.taskId ≠ body.taskId) ∧
      ∃ row, next.settlements.get body.taskId = some row ∧ row.status = .arbitrated := by
  simp only [createArbitrationCase, bind_eq_ok, require_eq_ok, getCaseSettlement_eq_ok] at ran
  obtain ⟨_, -, _, fresh, _, ⟨row, there, rfl⟩, _, contested, saved, stored, opened⟩ := ran
  obtain rfl := Except.ok.inj opened
  refine ⟨fun other old found => fresh.2 (other, old) (Table.mem_rows_iff.mpr found), ?_⟩
  rw [arbitrateIfDisputed] at stored
  split at stored
  case isTrue =>
    rw [require_bind_eq_ok] at stored
    rw [saveSettlement_ok stored.2]
    have keyed := wellFormed.keyed body.taskId row there
    refine ⟨row.fromRow.movedRow .arbitrated request.now, ?_, rfl⟩
    exact keyed ▸ Table.get_set_self _ _ _
  case isFalse quiet =>
    obtain rfl := Except.ok.inj stored
    have arbitrated := contested.resolve_left quiet
    rw [fromRow_status, wellFormed.canonical body.taskId row there] at arbitrated
    exact ⟨row, there, arbitrated⟩

/-- A case is opened once for a task, and changes until it is executed. -/
theorem dispatch_caseOrigin (wellFormed : db.WellFormed) (ran : dispatch request db call = .ok next)
    (there : next.cases.get caseId = some case_) : CaseOrigin db call caseId case_ := by
  have effect := dispatch_panel wellFormed ran
  replace there : next.panel.cases.get caseId = some case_ := there
  generalize next.panel = panel at effect there
  cases effect with
  | quiet | joined => exact .kept there
  | opened id body opening _ fresh unique =>
      rcases Table.get_set_eq_some.mp there with ⟨rfl, rfl⟩ | ⟨-, there⟩
      · exact .opened body opening rfl fresh unique
      · exact .kept there
  | assigned id old _ found unfinished =>
      exact caseOrigin_set there found rfl fun executed => unfinished (.inr executed)
  | voted vote old cases found unfinished _ _ _ stored =>
      rw [stored] at there
      refine caseOrigin_set there found ?_ fun executed => unfinished (.inr executed)
      exact old.afterVote_taskId _
  | executed id old found decided =>
      exact caseOrigin_set there found rfl (by simp [decided])

end Cases

/-! ## Every step -/

section Steps

variable {config : Config} {world next : World} {request : Request} {db : Db} {call : Call}
  {core : Core} {action : Action} {taskId : TaskId} {row : SettlementState}

/-- From its dispute on, a settlement becomes arbitrated and is resolved. -/
theorem Effect.disposed (effect : Effect db call core)
    (there : db.settlements.get taskId = some row) (disposed : row.status.Disposed) :
    ∃ after, core.settlements.get taskId = some after ∧ (after = row ∨
      (row.status = .disputed ∧ after.status = .arbitrated) ∨
      (call.resolves db = some taskId ∧ row.status.Contested ∧ after.status.Resolved)) := by
  -- work, cancellation and new disputes are behind it
  have quiet {target : TaskStatus} {key : TaskId} {old stored : SettlementState}
      (was : db.settlements.get key = some old) (allowed : canTransition old.status target = true)
      (elsewhere : canonicalTaskStatus target ∉
        [TaskStatus.arbitrated, .settled, .refunded, .partiallySettled, .frozen]) :
      (db.settlements.set key stored).get taskId = some row := by
    refine (Table.get_set_of_ne ?_).trans there
    rintro rfl
    obtain rfl := Option.some.inj (there.symm.trans was)
    rcases disposed with contested | resolved
    · exact not_contested_of_canTransition allowed elsewhere contested
    · refine not_terminal_of_canTransition allowed (fun frozen => ?_) resolved.terminal
      rw [frozen] at elsewhere
      exact elsewhere (by decide)
  cases effect with
  | settlementCreated body stored fresh =>
      refine ⟨row, (Table.get_set_of_ne ?_).trans there, .inl rfl⟩
      rintro rfl
      exact nomatch fresh.symm.trans there
  | moved _ key old stored _ was _ working allowed =>
      exact ⟨row, quiet was allowed working.elsewhere, .inl rfl⟩
  | cancelled key old stored was _ _ allowed =>
      exact ⟨row, quiet was allowed (by decide), .inl rfl⟩
  | disputed _ key old stored _ _ was _ _ allowed =>
      exact ⟨row, quiet was allowed (by decide), .inl rfl⟩
  | arbitrated _ key old stored _ was _ arbitrated disputed =>
      by_cases here : taskId = key
      · subst here
        obtain rfl := Option.some.inj (there.symm.trans was)
        exact ⟨stored, Table.get_set_self _ _ _, .inr (.inl ⟨disputed, arbitrated⟩)⟩
      · exact ⟨row, (Table.get_set_of_ne here).trans there, .inl rfl⟩
  | resolved _ key old stored _ _ _ was resolves _ ended before =>
      by_cases here : taskId = key
      · subst here
        obtain rfl := Option.some.inj (there.symm.trans was)
        refine ⟨stored, Table.get_set_self _ _ _, .inr (.inr ⟨resolves, ?_, ended⟩)⟩
        have live : ¬row.status.Resolved := fun resolved =>
          not_terminal_of_resolved ended before resolved.terminal
        exact disposed.resolve_right live
      · exact ⟨row, (Table.get_set_of_ne here).trans there, .inl rfl⟩
  | _ => exact ⟨row, there, .inl rfl⟩

/-- Of the contested statuses only arbitration admits a settlement. -/
theorem arbitrated_of_settles {status : TaskStatus} (contested : status.Contested)
    (allowed : canTransition status .settled = true) : status = .arbitrated := by
  rcases contested with rfl | arbitrated
  · exact absurd allowed (by decide)
  · exact arbitrated

/-- A settlement that can still be settled or refunded has not been paid out. -/
theorem TaskStatus.Disposed.contested {status target : TaskStatus} (disposed : status.Disposed)
    (ended : target.Resolved) (before : canTransition status target = true ∨ status = .disputed) :
    status.Contested :=
  disposed.resolve_right fun resolved => not_terminal_of_resolved ended before resolved.terminal

/-- A resolution of a disputed task that does not settle it for the buyer is arbitration. -/
theorem resolution_left (wellFormed : world.db.WellFormed)
    (ran : dispatch request world.db call = .ok db) (leaves : call.LeavesArbitrated world.db)
    (resolving : call.resolves world.db = some taskId) (asked : Request)
    (there : world.db.settlements.get taskId = some row) (disposed : row.status.Disposed) :
    ∃ after, db.settlements.get taskId = some after ∧
      LeftToArbitration world (.request asked call) taskId row after := by
  have canonical := wellFormed.canonical taskId row there
  -- the buyer's routes settle, which a disposed settlement admits only when it is arbitrated
  have refused (allowed : canTransition row.stage .settled = true)
      (leaves : ∀ row ∈ world.db.settlements.get taskId, row.status ≠ .arbitrated) : False := by
    rw [canonical] at allowed
    have contested := disposed.contested (.inl rfl) (.inl allowed)
    exact leaves row there (arbitrated_of_settles contested allowed)
  cases call with
  | partialSettlement task percent =>
      obtain rfl := Option.some.inj resolving
      obtain ⟨old, was, -, -, ran⟩ := partialSettlement_ok ran
      obtain rfl := Option.some.inj (there.symm.trans was)
      exact (refused (finalize_ok ran).1 leaves).elim
  | regretSettlement task buyer =>
      obtain rfl := Option.some.inj resolving
      obtain ⟨old, was, ran⟩ := regretSettlement_ok ran
      obtain rfl := Option.some.inj (there.symm.trans was)
      exact (refused (finalize_ok ran).1 leaves).elim
  | buyerAcceptSettlement task sceneId =>
      obtain rfl := Option.some.inj resolving
      obtain ⟨old, was, delivered, ran⟩ := buyerAcceptSettlement_ok ran
      obtain rfl := Option.some.inj (there.symm.trans was)
      rw [canonical] at delivered
      rw [delivered] at disposed
      exact absurd disposed (by decide)
  | autoConfirmSettlement task => exact absurd ran autoConfirmSettlement_refused
  | autoArbitrate task bundle =>
      obtain rfl := Option.some.inj resolving
      obtain ⟨old, arbitrated, was, moved, state, ran, same, -⟩ := autoArbitrate_ok ran
      obtain rfl := Option.some.inj (there.symm.trans was)
      obtain ⟨allowed, audits, rfl⟩ := transition_stored wellFormed there moved
        ⟨rfl, rfl, rfl, rfl⟩ rfl
      have disputed : row.status = .disputed :=
        canonical.symm.trans (canTransition_arbitrated allowed)
      refine ⟨_, finalize_stored ran (same.taskId.trans (wellFormed.keyed task row there)),
        .inr (.inr ⟨.inl disputed, ?_, .inl ⟨disputed, asked, bundle, rfl⟩⟩)⟩
      rcases autoDecision_over _ with settled | refunded
      · exact .inl (congrArg canonicalTaskStatus settled)
      · exact .inr (congrArg canonicalTaskStatus refunded)
  | executeArbitrationCase caseId =>
      obtain ⟨found, was, decided⟩ := executeArbitrationCase_decided ran
      obtain ⟨case_, outcome, old, again, judged, stored, capacity, before, -, rfl⟩ :=
        executeArbitrationCase_ok wellFormed.keyed ran
      obtain rfl := Option.some.inj (was.symm.trans again)
      rw [Call.resolves, was] at resolving
      obtain rfl := Option.some.inj resolving
      obtain rfl := Option.some.inj (there.symm.trans stored)
      have ended := decisionSplit_over outcome found.finalPartialPercent row.escrowAmount
      rw [canonical] at before
      refine ⟨_, Table.get_set_self _ _ _, .inr (.inr ⟨disposed.contested ended before.symm, ?_,
        .inr ⟨asked, caseId, found, outcome, rfl, was, rfl, decided, judged, ?_⟩⟩)⟩
      · rwa [decidedRow_status]
      · rw [decidedRow_status]
        rfl
  | _ => cases resolving

/-- Unless the buyer settles an arbitrated task, disputed money is left to arbitration. -/
theorem dispatch_left (wellFormed : world.db.WellFormed)
    (ran : dispatch request world.db call = .ok db) (leaves : call.LeavesArbitrated world.db)
    (asked : Request) (there : world.db.settlements.get taskId = some row)
    (disposed : row.status.Disposed) : ∃ after, db.settlements.get taskId = some after ∧
      LeftToArbitration world (.request asked call) taskId row after := by
  by_cases resolving : call.resolves world.db = some taskId
  · exact resolution_left wellFormed ran leaves resolving asked there disposed
  · obtain ⟨after, stored, rfl | ⟨disputed, arbitrated⟩ | ⟨resolves, -⟩⟩ :=
      (dispatch_effect wellFormed ran).1.disposed there disposed
    · exact ⟨after, stored, .inl rfl⟩
    · have carried := (dispatch_rowOrigin wellFormed ran stored).carried_of_get there
      exact ⟨after, stored, .inr (.inl ⟨disputed, arbitrated, carried.split resolving⟩)⟩
    · exact absurd resolves resolving

/-- The condition on a step is exactly what leaves disputed money to arbitration. -/
theorem leavesArbitrated_iff (wellFormed : world.db.WellFormed)
    (step : (system config).Step world action next) :
    action.LeavesArbitrated world ↔ ¬TakesFromArbitration world action next := by
  cases action with
  | setPauses pauses =>
      obtain rfl := Option.some.inj step
      exact iff_of_true trivial fun ⟨taskId, row, there, _, taken⟩ => taken row there (.inl rfl)
  | request request call =>
      obtain ⟨db, ran, rfl⟩ := step_request.mp step
      constructor
      · rintro leaves ⟨taskId, row, there, disposed, taken⟩
        obtain ⟨after, stored, left⟩ := dispatch_left wellFormed ran leaves request there disposed
        exact taken after stored left
      · intro left
        -- a settlement by the buyer is none of the ways that are left to arbitration
        have settles {taskId : TaskId} {state : SettlementState}
            (stored : db.settlements.get taskId = some (state.movedRow .settled request.now))
            (buyer : (∀ bundle, call ≠ .autoArbitrate taskId bundle) ∧
              ∀ caseId, call ≠ .executeArbitrationCase caseId) :
            ∀ row ∈ world.db.settlements.get taskId, row.status ≠ .arbitrated := by
          intro row there arbitrated
          refine left ⟨taskId, row, there, .inl (.inr arbitrated), fun after found => ?_⟩
          obtain rfl := Option.some.inj (stored.symm.trans found)
          rintro (rfl | ⟨-, open_, -⟩ | ⟨-, -, ⟨-, _, bundle, same⟩ | ⟨_, caseId, _, _, same, -⟩⟩)
          · exact nomatch arbitrated
          · exact nomatch open_
          · exact buyer.1 bundle (Action.request.inj same).2
          · exact buyer.2 caseId (Action.request.inj same).2
        cases call with
        | partialSettlement taskId percent =>
            obtain ⟨old, was, -, -, ran⟩ := partialSettlement_ok ran
            exact settles (finalize_stored ran (wellFormed.keyed taskId old was)) ⟨nofun, nofun⟩
        | regretSettlement taskId buyer =>
            obtain ⟨old, was, ran⟩ := regretSettlement_ok ran
            exact settles (finalize_stored ran (wellFormed.keyed taskId old was)) ⟨nofun, nofun⟩
        | _ => trivial

end Steps

/-! ## Every run -/

/-- A case that is not executed is the only one of its task, and the task is arbitrated. -/
structure Db.CasesPending (db : Db) : Prop where
  distinct : ∀ first second one other, db.cases.get first = some one →
    db.cases.get second = some other → one.taskId = other.taskId → first = second
  arbitrated : db.cases.Every fun _ case_ => case_.status ≠ .executed →
    ∃ row, db.settlements.get case_.taskId = some row ∧ row.status = .arbitrated

section Runs

variable {config : Config} {world next start finish : World} {request : Request} {db : Db}
  {call : Call} {actions : List Action}

theorem casesPending_empty : ({} : Db).CasesPending where
  distinct := fun first _ _ _ there => nomatch (Table.get_empty first).symm.trans there
  arbitrated := Table.every_empty _

/-- A task has a case only once. -/
theorem CaseOrigin.known {caseId : CaseId} {case_ : ArbitrationCase}
    (origin : CaseOrigin db call caseId case_) :
    (∃ old, db.cases.get caseId = some old ∧ case_.taskId = old.taskId) ∨
      ((∃ body, call = .createArbitrationCase caseId body) ∧
        ∀ other old, db.cases.get other = some old → old.taskId ≠ case_.taskId) := by
  cases origin with
  | kept there => exact .inl ⟨case_, there, rfl⟩
  | updated old there task => exact .inl ⟨old, there, task⟩
  | opened body called task _ unique => exact .inr ⟨⟨body, called⟩, task ▸ unique⟩

theorem dispatch_distinct (wellFormed : db.WellFormed) (pending : db.CasesPending) {after : Db}
    (ran : dispatch request db call = .ok after) {first second : CaseId}
    {one other : ArbitrationCase} (there : after.cases.get first = some one)
    (also : after.cases.get second = some other) (task : one.taskId = other.taskId) :
    first = second := by
  rcases (dispatch_caseOrigin wellFormed ran there).known with ⟨old, was, same⟩ |
    ⟨⟨body, called⟩, unique⟩
  · rcases (dispatch_caseOrigin wellFormed ran also).known with ⟨again, alsoWas, alsoSame⟩ |
      ⟨-, unique⟩
    · exact pending.distinct first second old again was alsoWas
        (same.symm.trans (task.trans alsoSame))
    · exact absurd (same.symm.trans task) (unique first old was)
  · rcases (dispatch_caseOrigin wellFormed ran also).known with ⟨again, alsoWas, alsoSame⟩ |
      ⟨⟨alsoBody, alsoCalled⟩, -⟩
    · exact absurd (alsoSame.symm.trans task.symm) (unique second again alsoWas)
    · exact (Call.createArbitrationCase.inj (called.symm.trans alsoCalled)).1

/-- An open case stays open on an arbitrated task until it is executed. -/
theorem dispatch_pending (wellFormed : world.db.WellFormed) (pending : world.db.CasesPending)
    (ran : dispatch request world.db call = .ok db) (leaves : call.LeavesArbitrated world.db) :
    db.CasesPending where
  distinct first second one other there also task :=
    dispatch_distinct wellFormed pending ran there also task
  arbitrated := by
    intro caseId case_ there unexecuted
    have stays {old : ArbitrationCase} (was : world.db.cases.get caseId = some old)
        (task : case_.taskId = old.taskId) (open_ : old.status ≠ .executed) :
        ∃ row, db.settlements.get case_.taskId = some row ∧ row.status = .arbitrated := by
      obtain ⟨row, found, arbitrated⟩ := pending.arbitrated caseId old was open_
      have disposed : row.status.Disposed := .inl (.inr arbitrated)
      obtain ⟨after, stored, rfl | ⟨disputed, -⟩ | ⟨-, -, ⟨disputed, -⟩ |
        ⟨asked, other, judged, outcome, same, alsoFound, alsoTask, -⟩⟩⟩ :=
          dispatch_left wellFormed ran leaves request found disposed
      · exact ⟨after, task ▸ stored, arbitrated⟩
      · exact nomatch arbitrated.symm.trans disputed
      · exact nomatch arbitrated.symm.trans disputed
      · -- the case that is executed is the case itself
        obtain rfl := pending.distinct caseId other old judged was alsoFound alsoTask.symm
        rw [(Action.request.inj same).2] at ran
        obtain ⟨_, _, _, _, _, _, _, _, _, rfl⟩ := executeArbitrationCase_ok wellFormed.keyed ran
        obtain rfl := Option.some.inj ((Table.get_set_self _ _ _).symm.trans there)
        exact absurd rfl unexecuted
    cases dispatch_caseOrigin wellFormed ran there with
    | kept was => exact stays was rfl unexecuted
    | updated old was task open_ => exact stays was task open_
    | opened body called task =>
        subst called
        exact task ▸ (createArbitrationCase_opens wellFormed ran).2

theorem casesPending_of_reachable (reachable : ((system config).restrict
    fun world action => action.LeavesArbitrated world).Reachable world) :
    world.db.CasesPending := by
  refine reachable.invariant (fun world initial => ?_)
    fun world action next reachable pending step => ?_
  · have empty : world.db = {} := initial
    exact empty ▸ casesPending_empty
  · have wellFormed := reachable_wellFormed reachable.of_restrict
    have leaves : action.LeavesArbitrated world := step.2
    refine step_db pending (fun request call db same ran => ?_) step.1
    subst same
    exact dispatch_pending wellFormed pending ran leaves

/-- A run leaves disputed money to arbitration, and pays out no task with an open case, exactly
if the buyer settles no arbitrated task. -/
theorem disputed_split_by_arbitration (initial : (system config).Init start)
    (run : (system config).Run start actions finish) :
    ((system config).restrict fun world action => action.LeavesArbitrated world).Run
        start actions finish ↔
      ¬(system config).Takes start actions finish TakesFromArbitration ∧
        ¬(system config).Visits start actions finish PaidBeforeExecution := by
  have reachable : (system config).Reachable start := .init initial
  have left : ((system config).restrict fun world action => action.LeavesArbitrated world).Run
      start actions finish ↔ ¬(system config).Takes start actions finish TakesFromArbitration :=
    TransitionSystem.Takes.restrict_iff_not (fun _ _ _ _ => step_unique)
      (fun world action next reachable step =>
        leavesArbitrated_iff (reachable_wellFormed reachable) step) reachable run
  rw [← left]
  refine ⟨fun restricted => ⟨restricted, fun visits => ?_⟩, And.left⟩
  obtain ⟨before, after, world, -, earlier, -, caseId, case_, row, found, unexecuted, there,
    resolved⟩ := visits.restrict (fun _ _ _ _ => step_unique) restricted
  have pending := casesPending_of_reachable ⟨start, before, initial, earlier⟩
  obtain ⟨again, same, arbitrated⟩ := pending.arbitrated caseId case_ found unexecuted
  obtain rfl := Option.some.inj (there.symm.trans same)
  exact resolved.elim (fun settled => nomatch arbitrated.symm.trans settled)
    fun refunded => nomatch arbitrated.symm.trans refunded

end Runs

/-! ## Scenes -/

instance (db : Db) : DecidablePred (Call.LeavesArbitrated db) := fun call => by
  unfold Call.LeavesArbitrated
  split <;> infer_instance

instance (world : World) : DecidablePred (Action.LeavesArbitrated world)
  | .request _ call => inferInstanceAs (Decidable (call.LeavesArbitrated world.db))
  | .setPauses _ => inferInstanceAs (Decidable True)

namespace Demo

/-- The case of a disputed task is executed. -/
def arbitrated : Scene (performIf (fun world action => action.LeavesArbitrated world) {}) {} where
  actions := contested ++ judged .sellerWins ++ [execution]
  possible := by decide +kernel

/-- A case of a disputed task is opened. -/
def filed : Scene (perform {}) {} where
  actions := contested ++ [call (.createArbitrationCase "c" { taskId := "t", openedBy := seller })]
  possible := by decide +kernel

def regret : Action := call (.regretSettlement "t" none)

/-- The buyer takes everything back while the case is open. -/
def regretted : Scene (perform {}) {} := filed.next regret (by decide +kernel)

/-- The settlement of a task in arbitration. -/
def filedRow : SettlementState where
  taskId := "t"
  escrowAmount := 10
  status := .arbitrated
  clientAgentId := buyer
  workerAgentId := some seller
  voucherId := some "v"

/-- The settlement that the buyer regrets. -/
def regrettedRow : SettlementState :=
  { filedRow with
    status := .settled
    releasedAmount := some 0
    refundedAmount := some 10
    releasedAt := some 0 }

end Demo

theorem disputed_split_by_arbitration_arbitrated :
    (¬(system {}).Takes {} Demo.arbitrated.actions Demo.arbitrated.world TakesFromArbitration ∧
      ¬(system {}).Visits {} Demo.arbitrated.actions Demo.arbitrated.world PaidBeforeExecution) ∧
      Demo.arbitrated.world.db.settlements.get "t" = some Demo.wonRow := by
  have run := scene_run_restricted Demo.arbitrated
  exact ⟨(disputed_split_by_arbitration (init_empty {}) run.of_restrict).mp run, by decide +kernel⟩

/-- The buyer decides the split of a disputed task while its case is open. -/
theorem not_disputed_split_by_arbitration :
    (system {}).Init {} ∧ ∃ actions finish, (system {}).Run {} actions finish ∧
      (system {}).Takes {} actions finish TakesFromArbitration ∧
      (system {}).Visits {} actions finish PaidBeforeExecution := by
  have run := scene_run Demo.filed
  have step : (system {}).Step Demo.filed.world Demo.regret Demo.regretted.world :=
    Demo.filed.performed Demo.regret _
  have before : Demo.filed.world.db.settlements.get "t" = some Demo.filedRow := by decide +kernel
  have after : Demo.regretted.world.db.settlements.get "t" = some Demo.regrettedRow := by
    decide +kernel
  refine ⟨init_empty {}, _, _, run.snoc step, .last run step ?_, .last (run.snoc step) ?_⟩
  · refine ⟨"t", Demo.filedRow, before, by decide, fun row there => ?_⟩
    obtain rfl := Option.some.inj (after.symm.trans there)
    rintro (same | ⟨disputed, -⟩ | ⟨-, -, ⟨disputed, -⟩ | ⟨_, _, _, _, executes, -⟩⟩)
    · exact nomatch congrArg SettlementState.status same
    · exact nomatch disputed
    · exact nomatch disputed
    · exact nomatch (Action.request.inj executes).2
  · exact ⟨"c", { taskId := "t", openedBy := Demo.seller }, Demo.regrettedRow, by decide +kernel,
      by decide, after, .inl rfl⟩

end TrustChain.Service
