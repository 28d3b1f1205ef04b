import TrustChain.Library.OrderedTable
import TrustChain.OwnerConfirmation.Sessions

/-!
# The confirmation service

All sessions, the operations on them, and the release of a task by its buyer, which asks for a
confirmed session where the scene of the task needs one. What other checks of the release say
comes with the request.
-/

namespace TrustChain.OwnerConfirmation

open Library
open Delivery (SceneId AgentId TaskId iso after orEmpty)

/-- A task that a buyer has released, under the session that the gate has used up. -/
structure Release where
  taskId : TaskId
  buyer : AgentId
  sceneId : SceneId
  sessionId : Option SessionId

inductive Event where
  | confirmed (time : Int) (sessionId : SessionId) (actor : AgentId)
  | used (time : Int) (sessionId : SessionId) (call : Call)
  | released (release : Release)

/-- `_SESSIONS`, and what has happened to them. -/
structure World where
  sessions : OrderedTable SessionId ConfirmationSession := .empty
  history : List Event := []

namespace World

variable (world : World)

/-- Change a session, and note what has happened. -/
def change (sessionId : SessionId) (session : ConfirmationSession) (events : List Event) : World where
  sessions := world.sessions.modify sessionId fun _ => session
  history := world.history ++ events

def note (event : Event) : World := { world with history := world.history ++ [event] }

/-- Look at some of the sessions. -/
def expire (now : Int) (ids : List SessionId) : World :=
  { world with
    sessions := world.sessions.map fun sessionId session =>
      if sessionId ∈ ids then session.expireIfNeeded now else session }

end World

/-- The arguments of `create_confirmation_session`; `amount` is what `float` makes of the amount in
the context, if it makes anything of it. -/
structure Creation where
  sceneId : SceneId
  role : String
  step : String
  ownerAgentId : AgentId
  amount : Option Double := none
  interactionRef : Option String := none
  policyAutoAllowed : Bool := false
  ttlSeconds : Option Int := none

/-- The session that `create_confirmation_session` opens. -/
def Creation.session (creation : Creation) (now : Int) : ConfirmationSession where
  sceneId := creation.sceneId
  role := creation.role.toLower
  step := creation.step
  ownerAgentId := creation.ownerAgentId
  createdAt := iso now
  expiresAt :=
    let ttl := max 60 (min (creation.ttlSeconds.getD sessionTtlSeconds) (7 * 24 * 3600))
    some (iso (now + ttl * 1000000))
  interactionRef := creation.interactionRef
  maxAmount := creation.amount

/-- `create_confirmation_session`, under an identifier drawn at random. -/
def createConfirmationSession (config : Config) (world : World) (now : Int) (sessionId : SessionId)
    (creation : Creation) : Except PolicyError World := do
  require (config.scenes creation.sceneId).isSome .unknownScene
  let gate ← config.resolveGate creation.sceneId creation.role creation.step
    creation.policyAutoAllowed
  if gate.needsOwner then
    .ok { world with sessions := world.sessions.set sessionId (creation.session now) }
  else .ok world

/-- Expire a session if needed and apply an operation to it that may raise. -/
def onSession (world : World) (now : Int) (sessionId : SessionId)
    (operation : ConfirmationSession → Except PolicyError (ConfirmationSession × List Event)) :
    World × Except PolicyError Unit :=
  match world.sessions.get sessionId with
  | none => (world, .error .unknownSession)
  | some session =>
      let current := session.expireIfNeeded now
      match operation current with
      | .error error => (world.change sessionId current [], .error error)
      | .ok (next, events) => (world.change sessionId next events, .ok ())

/-- `decide_confirmation_session`. -/
def decideConfirmationSession (world : World) (now : Int) (sessionId : SessionId) (confirm : Bool)
    (note : Option String) (actor : AgentId) : World × Except PolicyError Unit :=
  if Runtime.strip actor = "" then (world, .error .actorRequired)
  else
    onSession world now sessionId fun session => do
      let decided ← session.decide now confirm note actor
      .ok (decided, if confirm then [.confirmed now sessionId actor] else [])

/-- `mark_session_expired_cancelled`. -/
def markSessionExpiredCancelled (world : World) (now : Int) (sessionId : SessionId)
    (reason : String) : World × Except PolicyError Unit :=
  onSession world now sessionId fun session => do
    let cancelled ← session.markExpiredCancelled now reason
    .ok (cancelled, [])

/-- `assert_step_allowed`, and which session it has used up. -/
def assertStepAllowed (config : Config) (world : World) (now : Int) (call : Call) :
    World × Except PolicyError (Option SessionId) :=
  match config.resolveGate call.sceneId call.role call.step call.policyAutoAllowed with
  | .error error => (world, .error error)
  | .ok gate =>
      if gate.needsOwner then
        let sessionId := orEmpty call.confirmationSessionId
        if sessionId = "" then (world, .error .sessionRequired)
        else
          let (next, outcome) := onSession world now sessionId fun session => do
            session.allows call
            if call.consume then .ok (session.used now, [.used now sessionId call])
            else .ok (session, [])
          (next, outcome.map fun _ => if call.consume then some sessionId else none)
      else (world, .ok none)

/-- Whether a session covers a step that `step_already_satisfied` asks for. -/
def ConfirmationSession.satisfies (session : ConfirmationSession) (sceneId : SceneId)
    (role step : String) (ownerAgentId : AgentId) (interactionRef : Option String) : Bool :=
  session.sceneId = sceneId && session.role = role.toLower && session.step = step &&
    session.ownerAgentId = ownerAgentId && session.status = .used &&
    (orEmpty interactionRef = "" || orEmpty session.interactionRef = "" ||
      orEmpty session.interactionRef = orEmpty interactionRef)

/-- `step_already_satisfied`: what it looks at before it finds a session that covers the step. -/
def stepAlreadySatisfied (config : Config) (world : World) (now : Int) (sceneId : SceneId)
    (role step : String) (ownerAgentId : AgentId) (interactionRef : Option String)
    (policyAutoAllowed : Bool) : World × Except PolicyError Bool :=
  match config.resolveGate sceneId role step policyAutoAllowed with
  | .error error => (world, .error error)
  | .ok gate =>
      if gate.needsOwner then
        let covers := fun row : SessionId × ConfirmationSession =>
          row.2.satisfies sceneId role step ownerAgentId interactionRef
        let passed := world.sessions.rows.takeWhile (!covers ·)
        (world.expire now (passed.map Prod.fst), .ok (world.sessions.rows.any covers))
      else (world, .ok true)

/-- `list_pending_seller_accept_sessions`: the limit is compared after each session found. -/
def listPendingSellerAcceptSessions (world : World) (now : Int) (limit : Nat) : World :=
  let listed := world.sessions.rows.filter fun row =>
    row.2.role = "seller" && row.2.step = "accept_order" && row.2.status ∈ [.pending, .expired]
  world.expire now ((listed.take (max limit 1)).map Prod.fst)

/-! ## The release of a task -/

/-- The parts of a settlement that its release looks at. Its buyer is not empty, as
`validate_public_url_segment` has checked when it was created. -/
structure Settlement where
  taskId : TaskId
  clientAgentId : AgentId
  escrowAmount : Double
  /-- The scene that is stored with its progress rule. -/
  storedScene : Option SceneId
  client : clientAgentId ≠ ""

/-- A request to `buyer_accept_settlement`, with what its other checks say: those before the gate
(the buyer, the status, the runtime and the delivery) and the receipts after it. -/
structure Acceptance where
  settlement : Settlement
  confirmationSessionId : Option SessionId
  sceneId : Option SceneId
  admitted : Bool
  received : Bool

namespace Acceptance

variable (acceptance : Acceptance)

/-- The scene that the gate asks about. -/
def settleScene : SceneId :=
  let named := Runtime.strip (orEmpty acceptance.sceneId)
  if named = "" then Runtime.strip (orEmpty acceptance.settlement.storedScene) else named

def call : Call where
  sceneId := acceptance.settleScene
  role := "buyer"
  step := "buyer_accept_settle"
  confirmationSessionId := acceptance.confirmationSessionId
  expectedOwnerAgentId := some acceptance.settlement.clientAgentId
  amount := some acceptance.settlement.escrowAmount

/-- The session that is opened for a buyer who has none. -/
def creation : Creation where
  sceneId := acceptance.settleScene
  role := "buyer"
  step := "buyer_accept_settle"
  ownerAgentId := acceptance.settlement.clientAgentId
  amount := some acceptance.settlement.escrowAmount
  interactionRef := some ("settle:" ++ acceptance.settlement.taskId)

def release (sessionId : Option SessionId) : Release where
  taskId := acceptance.settlement.taskId
  buyer := acceptance.settlement.clientAgentId
  sceneId := acceptance.settleScene
  sessionId

end Acceptance

/-- Whether the release of a task in a scene asks for a session. -/
def Config.settleGated (config : Config) (sceneId : SceneId) : Bool :=
  let mode := (config.resolveGate sceneId "buyer" "buyer_accept_settle" false).toOption.map (·.mode)
  let must := mode = some .ownerConfirm || config.isHighRiskScene sceneId
  sceneId ≠ "" && must &&
    !(config.allowDemoConfirmationBypass && !config.isHighRiskScene sceneId)

/-- The end of `buyer_accept_settlement`. -/
def Acceptance.finish (acceptance : Acceptance) (world : World) (sessionId : Option SessionId) :
    World :=
  if acceptance.received then world.note (.released (acceptance.release sessionId)) else world

/-- `buyer_accept_settlement`, with the identifier of the session that it may open. -/
def buyerAcceptSettlement (config : Config) (world : World) (now : Int) (acceptance : Acceptance)
    (newSessionId : SessionId) : World :=
  if acceptance.admitted then
    if config.settleGated acceptance.settleScene then
      match assertStepAllowed config world now acceptance.call with
      | (next, .ok sessionId) => acceptance.finish next sessionId
      | (next, .error _) =>
          (createConfirmationSession config next now newSessionId acceptance.creation).toOption.getD
            next
    else acceptance.finish world none
  else world

inductive Action where
  | create (now : Int) (sessionId : SessionId) (creation : Creation)
  | get (now : Int) (sessionId : SessionId)
  | list (now : Int) (limit : Nat)
  | cancel (now : Int) (sessionId : SessionId) (reason : String)
  | decide (now : Int) (sessionId : SessionId) (confirm : Bool) (note : Option String)
      (actor : AgentId)
  | assertStep (now : Int) (call : Call)
  | satisfied (now : Int) (sceneId : SceneId) (role step : String) (ownerAgentId : AgentId)
      (interactionRef : Option String) (policyAutoAllowed : Bool)
  | buyerAccept (now : Int) (acceptance : Acceptance) (newSessionId : SessionId)

/-- Perform a request; identifiers of new sessions are fresh. -/
def perform (config : Config) (world : World) : Action → Option World
  | .create now sessionId creation =>
      if (world.sessions.get sessionId).isNone then
        some ((createConfirmationSession config world now sessionId creation).toOption.getD world)
      else none
  | .get now sessionId => some (world.expire now [sessionId])
  | .list now limit => some (listPendingSellerAcceptSessions world now limit)
  | .cancel now sessionId reason => some (markSessionExpiredCancelled world now sessionId reason).1
  | .decide now sessionId confirm note actor =>
      some (decideConfirmationSession world now sessionId confirm note actor).1
  | .assertStep now call => some (assertStepAllowed config world now call).1
  | .satisfied now sceneId role step ownerAgentId interactionRef policyAutoAllowed =>
      some (stepAlreadySatisfied config world now sceneId role step ownerAgentId interactionRef
        policyAutoAllowed).1
  | .buyerAccept now acceptance newSessionId =>
      if (world.sessions.get newSessionId).isNone then
        some (buyerAcceptSettlement config world now acceptance newSessionId)
      else none

def system (config : Config) : TransitionSystem World Action where
  Init world := world = {}
  Step world action next := perform config world action = some next

end TrustChain.OwnerConfirmation
