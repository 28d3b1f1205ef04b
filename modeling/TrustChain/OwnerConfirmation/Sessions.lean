import TrustChain.Delivery.Sessions
import TrustChain.Library.Doubles

/-!
# Confirmation sessions

Where the policy of a scene demands it, an agent asks its owner before a step. The question is a
session: the owner answers it once, and a step that the answer allows uses it up. A session that
has run out is marked so by whoever looks at it next.
-/

namespace TrustChain.OwnerConfirmation

open Library
open Delivery (SceneId AgentId TaskId iso after orEmpty)

abbrev SessionId := String

/-! ## Gates -/

inductive GateMode where
  | auto | ownerConfirm | policyAuto | counterpartyOrOwner
  /-- A mode that the code does not know. -/
  | other (name : String)
deriving DecidableEq

inductive Role where
  | buyer | seller
deriving DecidableEq

/-- The modes of the steps of each role, where the catalog names one. -/
abbrev Modes := Role → String → Option GateMode

structure Scene where
  modes : Modes
  highRisk : Bool := false

/-- The policy catalog, with its global defaults, and the environment that the service runs in. -/
structure Config where
  scenes : SceneId → Option Scene
  globalDefaults : Modes
  appEnv : String

inductive PolicyError where
  | badRole
  | unknownScene
  | sessionRequired
  | unknownSession
  | expired
  | notConfirmed (status : String)
  | alreadyDecided (status : String)
  | cannotCancel (status : String)
  | mismatch
  | wrongOwner
  | wrongInteraction
  | amountExceeded
  | actorRequired
  | onlyOwner
deriving DecidableEq

structure Gate where
  mode : GateMode
  needsOwner : Bool
deriving DecidableEq

/-- `allow_demo_confirmation_bypass`. -/
def Config.allowDemoConfirmationBypass (config : Config) : Bool :=
  config.appEnv.toLower ∈ ["development", "dev", "local", "test"]

/-- `is_high_risk_scene`. -/
def Config.isHighRiskScene (config : Config) (sceneId : SceneId) : Bool :=
  (config.scenes sceneId).any (·.highRisk)

/-- Whether a mode needs the owner. -/
def GateMode.needsOwner (policyAutoAllowed : Bool) : GateMode → Bool
  | .auto => false
  | .policyAuto => !policyAutoAllowed
  | .ownerConfirm | .counterpartyOrOwner | .other _ => true

/-- The role that a text names for `resolve_gate`. -/
def namedRole (role : String) : Option Role :=
  match Runtime.strip role.toLower with
  | "buyer" => some .buyer
  | "seller" => some .seller
  | _ => none

/-- `resolve_gate`. -/
def Config.resolveGate (config : Config) (sceneId : SceneId) (role step : String)
    (policyAutoAllowed : Bool) : Except PolicyError Gate :=
  match namedRole role with
  | none => .error .badRole
  | some role =>
      let named := (config.scenes sceneId).bind fun scene => scene.modes role step
      let mode := (named <|> config.globalDefaults role step).getD .ownerConfirm
      .ok { mode, needsOwner := mode.needsOwner policyAutoAllowed }

/-! ## One session -/

inductive SessionStatus where
  | pending | confirmed | rejected | used | expired | cancelled
deriving DecidableEq

def SessionStatus.text : SessionStatus → String
  | .pending => "PENDING"
  | .confirmed => "CONFIRMED"
  | .rejected => "REJECTED"
  | .used => "USED"
  | .expired => "EXPIRED"
  | .cancelled => "CANCELLED"

/-- A session, without the prompt and the context that it shows to the owner. -/
structure ConfirmationSession where
  sceneId : SceneId
  role : String
  step : String
  ownerAgentId : AgentId
  status : SessionStatus := .pending
  createdAt : Int
  expiresAt : Option Int
  decidedAt : Option Int := none
  decisionNote : Option String := none
  interactionRef : Option String
  maxAmount : Option Double
  cancelReason : Option String := none

/-- The arguments of `assert_step_allowed`. -/
structure Call where
  sceneId : SceneId
  role : String
  step : String
  confirmationSessionId : Option SessionId := none
  policyAutoAllowed : Bool := false
  expectedOwnerAgentId : Option AgentId := none
  amount : Option Double := none
  consume : Bool := true
  expectedInteractionRef : Option String := none

/-- `SESSION_TTL_SECONDS`. -/
def sessionTtlSeconds : Int := 30 * 60

/-- What an amount may exceed the confirmed amount by, `1e-6`. -/
def tolerance : Double := .round (1 / 1000000)

/-- Whether an amount exceeds the confirmed one, where there are both. -/
def exceeds : Option Double → Option Double → Bool
  | some amount, some maxAmount => Double.lt (maxAmount.add tolerance) amount
  | _, _ => false

namespace ConfirmationSession

variable (session : ConfirmationSession)

def deadline : Int := session.expiresAt.getD (session.createdAt + sessionTtlSeconds)

/-- `_expire_if_needed_unlocked`. -/
def expireIfNeeded (now : Int) : ConfirmationSession :=
  if session.status ∈ [.pending, .confirmed] ∧ after now session.deadline then
    { session with status := .expired }
  else session

def decided (now : Int) (confirm : Bool) (note : Option String) : ConfirmationSession :=
  { session with
    status := if confirm then .confirmed else .rejected
    decidedAt := some (iso now)
    decisionNote := note }

/-- `decide_confirmation_session`, on a session that has been expired if needed. -/
def decide (now : Int) (confirm : Bool) (note : Option String) (actor : AgentId) :
    Except PolicyError ConfirmationSession := do
  require (session.status ≠ .expired) .expired
  require (session.status = .pending) (.alreadyDecided session.status.text)
  require (actor = session.ownerAgentId) .onlyOwner
  .ok (session.decided now confirm note)

def cancelled (now : Int) (reason : String) : ConfirmationSession :=
  { session with
    status := .cancelled
    cancelReason := some reason
    decisionNote :=
      if orEmpty session.decisionNote = "" then some reason else session.decisionNote
    decidedAt := session.decidedAt <|> some (iso now) }

/-- `mark_session_expired_cancelled`, on a session that has been expired if needed. -/
def markExpiredCancelled (now : Int) (reason : String) : Except PolicyError ConfirmationSession := do
  require (session.status ∈ [.expired, .cancelled, .pending]) (.cannotCancel session.status.text)
  .ok (session.cancelled now reason)

def used (now : Int) : ConfirmationSession :=
  { session with
    status := .used
    decidedAt := session.decidedAt <|> some (iso now) }

@[simp] theorem decided_status (now : Int) (confirm : Bool) (note : Option String) :
    (session.decided now confirm note).status = if confirm then .confirmed else .rejected := rfl

@[simp] theorem cancelled_status (now : Int) (reason : String) :
    (session.cancelled now reason).status = .cancelled := rfl

@[simp] theorem used_status (now : Int) : (session.used now).status = .used := rfl

/-- What `assert_step_allowed` demands of a session that has been expired if needed. -/
def allows (call : Call) : Except PolicyError Unit := do
  require (session.status ≠ .expired) .expired
  require (session.status = .confirmed) (.notConfirmed session.status.text)
  require (session.sceneId = call.sceneId ∧ session.step = call.step ∧
    session.role = call.role.toLower) .mismatch
  require (orEmpty call.expectedOwnerAgentId = "" ∨
    session.ownerAgentId = orEmpty call.expectedOwnerAgentId) .wrongOwner
  require (orEmpty call.expectedInteractionRef = "" ∨ orEmpty session.interactionRef = "" ∨
    orEmpty session.interactionRef = orEmpty call.expectedInteractionRef) .wrongInteraction
  require (exceeds call.amount session.maxAmount = false) .amountExceeded

end ConfirmationSession

end TrustChain.OwnerConfirmation
