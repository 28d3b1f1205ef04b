import TrustChain.Delivery.Effects
import TrustChain.Library.OrderedTable

/-!
# The delivery service

All sessions in the order of their creation, the operations on one of them, the sweep of silent
buyers and the gate before a settlement. What other services say comes with a request.
-/

namespace TrustChain.Delivery

open Library

/-- `_SESSIONS`. -/
structure World where
  sessions : OrderedTable VerificationId Session := .empty

/-- What `get_capture_public` returns. -/
structure Capture where
  status : String
  sceneId : String

namespace World

variable (world : World)

/-- An operation on the session with an identifier, if there is one. -/
def operate (config : Config) (now : Int) (verificationId : VerificationId)
    (operation : Operation) : World :=
  { world with
    sessions := world.sessions.modify verificationId fun session =>
      operation.apply config now session }

@[simp] theorem operate_sessions (config : Config) (now : Int) (subject : VerificationId)
    (operation : Operation) : (world.operate config now subject operation).sessions =
      world.sessions.map fun verificationId session =>
        if verificationId = subject then operation.apply config now session else session := rfl

/-- `get_verification_for_task`. -/
def getVerificationForTask (taskId : TaskId) : Option (VerificationId × Session) :=
  world.sessions.rows.find? fun row => row.2.taskId = taskId

/-- The session of a task that was created last. -/
def newest (taskId : TaskId) : Option (VerificationId × Session) :=
  world.sessions.rows.reverse.find? fun row => row.2.taskId = taskId

end World

/-- The capture that a session names must have matched; `some none` names one that is not there. -/
def requireMatched (sceneId : SceneId) : Option (Option Capture) → Except DeliveryError Unit
  | none => .ok ()
  | some none => .error .captureUnavailable
  | some (some capture) => do
      require (capture.status = "MATCHED") (.captureNotMatched capture.status)
      require (capture.sceneId = "" ∨ capture.sceneId = sceneId) .captureSceneMismatch

/-- `create_verification_session`, under an identifier drawn at random. -/
def createVerificationSession (config : Config) (world : World) (verificationId : VerificationId)
    (taskId : TaskId) (sceneId : SceneId) (sellerAgentId buyerAgentId : AgentId)
    (logisticsAgentId : Option AgentId) (capture : Option (Option Capture)) :
    Except DeliveryError World := do
  let policy := config.scenePolicy sceneId
  require (policy.mode.physical = true → orEmpty logisticsAgentId ≠ "") .logisticsRequired
  require (orEmpty logisticsAgentId ∉ [sellerAgentId, buyerAgentId] ∨
    orEmpty logisticsAgentId = "") .logisticsNotDistinct
  requireMatched sceneId (if policy.requireMatchedIfCapture then capture else none)
  let reused := (world.getVerificationForTask taskId).any fun row =>
    row.2.status ∉ [.verified, .failed, .rejected]
  if reused then .ok world
  else
    .ok { world with sessions := world.sessions.set verificationId {
      verificationId
      taskId
      sceneId
      mode := policy.mode
      status :=
        if policy.mode ∈ [.physicalTriple, .ticketStub, .rideTrack] then .awaitingSellerShip
        else .created
      sellerAgentId
      buyerAgentId
      logisticsAgentId
      requiredEvents := policy.requiredEvents
      buyerSilentConfirmSeconds := policy.buyerSilentConfirmSeconds
      highRisk := policy.highRisk } }

/-- The loop of `expire_silent_buyers`, with what is left of its limit. -/
def expireLoop (config : Config) (now : Int) : Nat → List VerificationId → World → World
  | _, [], world => world
  | 0, _, world => world
  | limit + 1, verificationId :: rest, world =>
      let applied := (world.sessions.get verificationId).any fun session =>
        session.silenceOver now &&
          (session.applySilentBuyerDefault config now).status ∈ [.verified, .buyerSilentDefault]
      expireLoop config now (if applied then limit else limit + 1) rest
        (world.operate config now verificationId .applySilentBuyerDefault)

/-- `expire_silent_buyers`. -/
def expireSilentBuyers (config : Config) (world : World) (now : Int) (limit : Nat) : World :=
  expireLoop config now limit (world.sessions.keys.take (limit * 2)) world

/-- `require_verified_for_settle`. -/
def requireVerifiedForSettle (config : Config) (world : World) (now : Int) (taskId : TaskId)
    (sceneId : Option SceneId) (allowMissingSessionForDigital : Bool) :
    World × Except DeliveryError Unit :=
  let swept := expireSilentBuyers config world now 50
  match swept.getVerificationForTask taskId with
  | none =>
      let scene := if orEmpty sceneId = "" then "api_tool_call" else orEmpty sceneId
      if allowMissingSessionForDigital && (config.scenePolicy scene).mode.digital then
        (swept, .ok ())
      else (swept, .error .sessionRequired)
  | some (verificationId, session) =>
      if session.status = .verified then (swept, .ok ())
      else
        let advanced := session.tryVerify config now
        (swept.operate config now verificationId .tryVerify,
          if advanced.status = .verified then .ok () else .error (.notVerified advanced.status))

inductive Action where
  | create (verificationId : VerificationId) (taskId : TaskId) (sceneId : SceneId)
      (sellerAgentId buyerAgentId : AgentId) (logisticsAgentId : Option AgentId)
      (capture : Option (Option Capture))
  | operate (now : Int) (verificationId : VerificationId) (operation : Operation)
  | expireSilentBuyers (now : Int) (limit : Nat)
  | requireVerifiedForSettle (now : Int) (taskId : TaskId) (sceneId : Option SceneId)
      (allowMissingSessionForDigital : Bool)

/-- Perform a request; the identifier of a new session is fresh. -/
def perform (config : Config) (world : World) : Action → Option World
  | .create verificationId taskId sceneId sellerAgentId buyerAgentId logisticsAgentId capture =>
      if (world.sessions.get verificationId).isNone then
        some ((createVerificationSession config world verificationId taskId sceneId sellerAgentId
          buyerAgentId logisticsAgentId capture).toOption.getD world)
      else none
  | .operate now verificationId operation =>
      some (world.operate config now verificationId operation)
  | .expireSilentBuyers now limit => some (expireSilentBuyers config world now limit)
  | .requireVerifiedForSettle now taskId sceneId allowMissingSessionForDigital =>
      some (requireVerifiedForSettle config world now taskId sceneId
        allowMissingSessionForDigital).1

def system (config : Config) : TransitionSystem World Action where
  Init world := world = {}
  Step world action next := perform config world action = some next

/-! ## What a request does to a session -/

/-- The sessions that the loop of the sweep gets to. -/
def reached (now : Int) (world : World) : Nat → List VerificationId → List VerificationId
  | _, [] => []
  | 0, _ => []
  | limit + 1, verificationId :: rest =>
      let applied := (world.sessions.get verificationId).any fun session =>
        session.silenceOver now && session.chainOk
      verificationId :: reached now world (if applied then limit else limit + 1) rest

/-- The sessions that the sweep gets to. -/
def swept (now : Int) (world : World) (limit : Nat) : List VerificationId :=
  reached now world limit (world.sessions.keys.take (limit * 2))

/-- The operations that a request applies to a session, one after the other. -/
def operations (world : World) (verificationId : VerificationId) : Action → List Operation
  | .create .. => []
  | .operate _ subject operation => if subject = verificationId then [operation] else []
  | .expireSilentBuyers now limit =>
      if verificationId ∈ swept now world limit then [.applySilentBuyerDefault] else []
  | .requireVerifiedForSettle now taskId _ _ =>
      (if verificationId ∈ swept now world 50 then [.applySilentBuyerDefault] else []) ++
        if (world.getVerificationForTask taskId).any (·.1 = verificationId) then [.tryVerify] else []

/-- When a request is made. -/
def Action.now : Action → Int
  | .create .. => 0
  | .operate now .. | .expireSilentBuyers now _ | .requireVerifiedForSettle now .. => now

section Steps

variable {config : Config} {now : Int} {world next : World} {action : Action}
  {verificationId : VerificationId} {session : Session}

/-- The sweep counts the sessions whose chain is complete when the silence is over. -/
theorem applied_iff (session : Session) :
    (session.silenceOver now &&
        (session.applySilentBuyerDefault config now).status ∈ [.verified, .buyerSilentDefault]) =
      (session.silenceOver now && session.chainOk) := by
  cases late : session.silenceOver now with
  | false => rfl
  | true =>
      cases complete : session.chainOk with
      | true =>
          have status := Session.tryVerify_status config now (session.silenced now)
          simp only [Session.applySilentBuyerDefault, late, complete, Bool.and_self, if_true,
            Bool.true_and, decide_eq_true_eq]
          rcases status with status | status
          · simp [status]
          · simp [status]
      | false =>
          simp only [Session.silenceOver, Bool.and_eq_true, decide_eq_true_eq] at late
          simp only [Session.applySilentBuyerDefault, complete, Bool.and_false, Bool.false_eq_true,
            if_false, Bool.true_and, decide_eq_false_iff_not]
          have waiting := late.1.1.1
          simp only [List.mem_cons, not_or] at waiting ⊢
          exact ⟨waiting.1, waiting.2.2.1, List.not_mem_nil⟩

theorem subset_reached (limit : Nat) (ids : List VerificationId) :
    reached now world limit ids ⊆ ids := by
  induction ids generalizing limit with
  | nil => simp [reached]
  | cons first rest ih =>
      cases limit with
      | zero => simp [reached]
      | succ limit => exact List.cons_subset_cons first (ih _)

theorem reached_congr {other : World} (limit : Nat) (ids : List VerificationId)
    (same : ∀ verificationId ∈ ids,
      other.sessions.get verificationId = world.sessions.get verificationId) :
    reached now other limit ids = reached now world limit ids := by
  induction ids generalizing limit with
  | nil => simp [reached]
  | cons first rest ih =>
      cases limit with
      | zero => simp [reached]
      | succ limit =>
          simp only [reached, same first List.mem_cons_self]
          rw [ih _ fun verificationId member => same verificationId (List.mem_cons_of_mem _ member)]

/-- The loop applies the silent default to the sessions that it gets to. -/
theorem expireLoop_sessions (limit : Nat) (ids : List VerificationId) (distinct : ids.Nodup) :
    (expireLoop config now limit ids world).sessions =
      world.sessions.map fun verificationId session =>
        if verificationId ∈ reached now world limit ids then
          session.applySilentBuyerDefault config now
        else session := by
  induction ids generalizing limit world with
  | nil => simp [expireLoop, reached]
  | cons first rest ih =>
      cases limit with
      | zero => simp [expireLoop, reached]
      | succ limit =>
          obtain ⟨fresh, distinct⟩ := List.nodup_cons.mp distinct
          simp only [expireLoop, reached, applied_iff]
          have later : ∀ limit, reached now (world.operate config now first
              .applySilentBuyerDefault) limit rest = reached now world limit rest := by
            refine fun limit => reached_congr limit rest fun verificationId member => ?_
            have different : verificationId ≠ first := by
              rintro rfl
              exact fresh member
            simp [World.operate, OrderedTable.get_modify, different]
          rw [ih _ distinct, later, World.operate, OrderedTable.modify, OrderedTable.map_map]
          refine OrderedTable.map_congr fun verificationId session _ => ?_
          by_cases here : verificationId = first
          · subst here
            have done : ∀ limit, verificationId ∉ reached now world limit rest :=
              fun limit again => fresh (subset_reached limit rest again)
            simp [done, Operation.apply, Operation.run, Except.toOption]
          · simp [here]

/-- What the sweep makes of a session. -/
def sweepSession (config : Config) (now : Int) (world : World) (limit : Nat)
    (verificationId : VerificationId) (session : Session) : Session :=
  if verificationId ∈ swept now world limit then session.applySilentBuyerDefault config now
  else session

theorem expireSilentBuyers_sessions (limit : Nat) :
    (expireSilentBuyers config world now limit).sessions =
      world.sessions.map (sweepSession config now world limit) := by
  have distinct : world.sessions.keys.Nodup := world.sessions.nodup
  exact expireLoop_sessions limit _ (distinct.sublist (List.take_sublist _ _))

/-- A change that leaves every session its task finds the same first session of a task. -/
theorem getVerificationForTask_map {other : World} (taskId : TaskId)
    {change : VerificationId → Session → Session}
    (changed : other.sessions = world.sessions.map change)
    (same : ∀ verificationId session, (change verificationId session).taskId = session.taskId) :
    other.getVerificationForTask taskId =
      (world.getVerificationForTask taskId).map fun row => (row.1, change row.1 row.2) := by
  simp [World.getVerificationForTask, changed, OrderedTable.map, List.find?_map, Function.comp_def,
    same]

theorem apply_tryVerify (session : Session) :
    Operation.apply config now session .tryVerify = session.tryVerify config now := rfl

theorem tryVerify_of_verified (verified : session.status = .verified) :
    session.tryVerify config now = session := by
  simp [Session.tryVerify, verified, Session.closed]

/-- What the gate makes of a session: it is swept, and the first one of the task is tried. -/
theorem foldl_gate {taskId : TaskId} {sceneId : Option SceneId} {allow : Bool}
    (verificationId : VerificationId) (session : Session) :
    (operations world verificationId
        (.requireVerifiedForSettle now taskId sceneId allow)).foldl (Operation.apply config now)
        session =
      if (world.getVerificationForTask taskId).any (·.1 = verificationId) = true then
        (sweepSession config now world 50 verificationId session).tryVerify config now
      else sweepSession config now world 50 verificationId session := by
  simp only [operations, List.foldl_append, sweepSession]
  split
  · split <;> rfl
  · split <;> rfl

/-- The first session of a task after the sweep. -/
theorem sweep_first (taskId : TaskId) :
    (expireSilentBuyers config world now 50).getVerificationForTask taskId =
      (world.getVerificationForTask taskId).map fun row =>
        (row.1, sweepSession config now world 50 row.1 row.2) := by
  refine getVerificationForTask_map taskId (expireSilentBuyers_sessions 50) ?_
  intro verificationId session
  unfold sweepSession
  split
  · exact (apply_sameDeal .applySilentBuyerDefault).taskId
  · rfl

/-- The gate sweeps all sessions, and tries to verify the first one of the task. -/
theorem requireVerifiedForSettle_sessions {taskId : TaskId} {sceneId : Option SceneId}
    {allow : Bool} :
    (requireVerifiedForSettle config world now taskId sceneId allow).1.sessions =
      world.sessions.map fun verificationId session =>
        (operations world verificationId
          (.requireVerifiedForSettle now taskId sceneId allow)).foldl (Operation.apply config now)
          session := by
  simp only [foldl_gate]
  unfold requireVerifiedForSettle
  cases found : world.getVerificationForTask taskId with
  | none =>
      simp only [sweep_first, found, Option.map_none, apply_ite Prod.fst, ite_self,
        Option.any_none, Bool.false_eq_true, if_false]
      exact expireSilentBuyers_sessions 50
  | some row =>
      obtain ⟨subject, before⟩ := row
      have there : world.sessions.get subject = some before :=
        OrderedTable.mem_rows_iff.mp (List.mem_of_find?_eq_some found)
      simp only [sweep_first, found, Option.map_some, Option.any_some, decide_eq_true_eq]
      by_cases verified : (sweepSession config now world 50 subject before).status = .verified
      · rw [if_pos verified, expireSilentBuyers_sessions]
        refine OrderedTable.map_congr fun verificationId session here => ?_
        split
        case isTrue same =>
          subst same
          obtain rfl := Option.some.inj (there.symm.trans here)
          exact (tryVerify_of_verified verified).symm
        case isFalse => rfl
      · rw [if_neg verified, World.operate_sessions, expireSilentBuyers_sessions,
          OrderedTable.map_map]
        refine OrderedTable.map_congr fun verificationId session _ => ?_
        by_cases same : verificationId = subject
        · simp [same, apply_tryVerify]
        · simp [same, Ne.symm same]

/-- The gate opens if the first session of the task is verified when it has been tried. -/
theorem verified_of_gate {taskId : TaskId} {sceneId : Option SceneId} {allow : Bool}
    {first : VerificationId × Session} (found : world.getVerificationForTask taskId = some first)
    (opens : (requireVerifiedForSettle config world now taskId sceneId allow).2 = .ok ()) :
    ((sweepSession config now world 50 first.1 first.2).tryVerify config now).status =
      .verified := by
  simp only [requireVerifiedForSettle, sweep_first, found, Option.map_some] at opens
  by_cases verified : (sweepSession config now world 50 first.1 first.2).status = .verified
  · rw [tryVerify_of_verified verified]
    exact verified
  · rw [if_neg verified] at opens
    by_contra unverified
    simp [unverified] at opens

/-- The newest session of a task is found under the same identifier as well. -/
theorem newest_map {other : World} (taskId : TaskId)
    {change : VerificationId → Session → Session}
    (changed : other.sessions = world.sessions.map change)
    (same : ∀ verificationId session, (change verificationId session).taskId = session.taskId) :
    other.newest taskId =
      (world.newest taskId).map fun row => (row.1, change row.1 row.2) := by
  simp [World.newest, changed, OrderedTable.map, ← List.map_reverse, List.find?_map,
    Function.comp_def, same]

/-- After a request that creates nothing, every session is what the operations of the request have
made of it. -/
theorem sessions_step (step : perform config world action = some next)
    (kept : ∀ verificationId taskId sceneId sellerAgentId buyerAgentId logisticsAgentId capture,
      action ≠ .create verificationId taskId sceneId sellerAgentId buyerAgentId logisticsAgentId
        capture) :
    next.sessions = world.sessions.map fun verificationId session =>
      (operations world verificationId action).foldl (Operation.apply config action.now) session := by
  cases action with
  | create => exact absurd rfl (kept _ _ _ _ _ _ _)
  | operate time subject operation =>
      obtain rfl := Option.some.inj step
      rw [World.operate_sessions]
      refine OrderedTable.map_congr fun verificationId session _ => ?_
      by_cases here : verificationId = subject
      · simp [operations, here, Action.now]
      · simp [operations, here, Ne.symm here]
  | expireSilentBuyers time limit =>
      obtain rfl := Option.some.inj step
      rw [expireSilentBuyers_sessions]
      refine OrderedTable.map_congr fun verificationId session _ => ?_
      simp only [operations, Action.now, sweepSession]
      split
      · simp [Operation.apply, Operation.run, Except.toOption]
      · rfl
  | requireVerifiedForSettle time taskId sceneId allowMissingSessionForDigital =>
      obtain rfl := Option.some.inj step
      exact requireVerifiedForSettle_sessions

/-- A session as it is created. -/
structure Fresh (session : Session) : Prop where
  status : session.status ∈ [.awaitingSellerShip, .created]
  events : session.events = []
  challenges : session.challenges = []
  buyerSilentDeadline : session.buyerSilentDeadline = none

/-- A creation that is not refused reuses an open session of the task, or appends a fresh one. -/
theorem create_cases {subject taskId sceneId sellerAgentId buyerAgentId : String}
    {logisticsAgentId : Option AgentId} {capture : Option (Option Capture)}
    (step : perform config world (.create subject taskId sceneId sellerAgentId buyerAgentId
      logisticsAgentId capture) = some next) :
    next = world ∨ ∃ session, world.sessions.get subject = none ∧
      next.sessions = world.sessions.set subject session ∧ Fresh session := by
  simp only [perform, Option.ite_none_right_eq_some, Option.some.injEq,
    Option.isNone_iff_eq_none] at step
  obtain ⟨absent, rfl⟩ := step
  cases ran : createVerificationSession config world subject taskId sceneId sellerAgentId
      buyerAgentId logisticsAgentId capture with
  | error => exact .inl rfl
  | ok after =>
      simp only [createVerificationSession, require_bind_eq_ok] at ran
      obtain ⟨-, -, ran⟩ := ran
      obtain ⟨⟨⟩, -, ran⟩ := bind_eq_ok.mp ran
      split at ran
      · obtain rfl := Except.ok.inj ran
        exact .inl rfl
      · obtain rfl := Except.ok.inj ran
        refine .inr ⟨_, absent, rfl, ?_, rfl, rfl, rfl⟩
        split <;> simp

/-- What operations make of a session is what the session is after the request. -/
theorem get_step (step : perform config world action = some next)
    (there : world.sessions.get verificationId = some session) :
    next.sessions.get verificationId =
      some ((operations world verificationId action).foldl (Operation.apply config action.now)
        session) := by
  by_cases creates : ∃ subject taskId sceneId sellerAgentId buyerAgentId logisticsAgentId capture,
      action = .create subject taskId sceneId sellerAgentId buyerAgentId logisticsAgentId capture
  · obtain ⟨subject, _, _, _, _, _, _, rfl⟩ := creates
    rcases create_cases step with rfl | ⟨created, absent, is, -⟩
    · exact there
    · have different : verificationId ≠ subject := by
        rintro rfl
        simp [absent] at there
      rw [is, OrderedTable.get_set, if_neg different]
      exact there
  · have kept := sessions_step step fun subject taskId sceneId sellerAgentId buyerAgentId
      logisticsAgentId capture is => creates ⟨_, _, _, _, _, _, _, is⟩
    rw [kept, OrderedTable.get_map, there, Option.map_some]

theorem fresh_of_new (step : perform config world action = some next)
    (absent : world.sessions.get verificationId = none)
    (there : next.sessions.get verificationId = some session) : Fresh session := by
  by_cases creates : ∃ subject taskId sceneId sellerAgentId buyerAgentId logisticsAgentId capture,
      action = .create subject taskId sceneId sellerAgentId buyerAgentId logisticsAgentId capture
  · obtain ⟨subject, _, _, _, _, _, _, rfl⟩ := creates
    rcases create_cases step with rfl | ⟨created, -, is, fresh⟩
    · simp [absent] at there
    · rw [is, OrderedTable.get_set] at there
      split at there
      · exact Option.some.inj there ▸ fresh
      · simp [absent] at there
  · have kept := sessions_step step fun subject taskId sceneId sellerAgentId buyerAgentId
      logisticsAgentId capture is => creates ⟨_, _, _, _, _, _, _, is⟩
    rw [kept, OrderedTable.get_map, absent] at there
    simp at there

/-- What holds of fresh sessions, and what admitted requests preserve of a session, holds of every
session in every state that a run of admitted requests reaches. -/
theorem session_invariant {property : Session → Prop} {allowed : World → Action → Prop}
    (created : ∀ session, Fresh session → property session)
    (kept : ∀ world verificationId session action, allowed world action →
      world.sessions.get verificationId = some session → property session →
      property ((operations world verificationId action).foldl
        (Operation.apply config action.now) session))
    (reachable : ((system config).restrict allowed).Reachable world)
    (there : world.sessions.get verificationId = some session) : property session := by
  suffices all : ∀ verificationId session, world.sessions.get verificationId = some session →
      property session from all verificationId session there
  refine reachable.invariant ?_ ?_
  · rintro _ rfl verificationId session there
    simp at there
  · rintro state action next - known ⟨step, admitted⟩ verificationId session there
    cases before : state.sessions.get verificationId with
    | none => exact created session (fresh_of_new step before there)
    | some earlier =>
        rw [get_step step before, Option.some.injEq] at there
        exact there ▸ kept state verificationId earlier action admitted before
          (known verificationId earlier before)

end Steps

end TrustChain.Delivery
