import TrustChain.OwnerConfirmation.System

/-!
# The seller no-show ledger

A seller who lets an order wait past its time, or declines it, is entered in the accept ledger:
counters for each seller and scene, a small reputation delta, and an event. The events tell
whether a session has been entered before, and their number names the next event; when there
are more than 5000, only the last 4000 are kept.
-/

namespace TrustChain.AcceptFulfillment

open Library
open OwnerConfirmation (SessionId)
open Delivery (SceneId AgentId iso orEmpty)

inductive AcceptError where
  | reason
  | sellerRequired
deriving DecidableEq

def AcceptError.text : AcceptError → String
  | .reason => "reason must be timeout|reject"
  | .sellerRequired => "seller_id required"

/-! ## Reputation deltas of the scenes -/

inductive Reason where
  | timeout | reject
deriving DecidableEq

def Reason.named : String → Option Reason
  | "timeout" => some .timeout
  | "reject" => some .reject
  | _ => none

/-- What an entry of the catalog says about reputation; `none` where it says nothing. -/
structure ScenePolicy where
  reputationDeltaOnTimeout : Option ℚ := none
  reputationDeltaOnReject : Option ℚ := none
  maxReputationHitPerEvent : Option ℚ := none

def globalDefaults : ScenePolicy where
  reputationDeltaOnTimeout := some (-2)
  reputationDeltaOnReject := some (-3)
  maxReputationHitPerEvent := some 5

def scenes : List (SceneId × ScenePolicy) :=
  [("food_delivery", { reputationDeltaOnTimeout := some (-2), reputationDeltaOnReject := some (-2) }),
    ("ride_hailing", { reputationDeltaOnTimeout := some (-2), reputationDeltaOnReject := some (-3) }),
    ("hotel_booking", {}),
    ("flight_booking", {}),
    ("logistics_delivery", {}),
    ("b2b_procurement",
      { reputationDeltaOnTimeout := some (-3), reputationDeltaOnReject := some (-4) }),
    ("data_api_billing", {}),
    ("api_tool_call", {}),
    ("software_development", { reputationDeltaOnTimeout := some (-3) }),
    ("design_creative", {}),
    ("consulting_advisory", {}),
    ("content_creation", {}),
    ("manufacturing",
      { reputationDeltaOnTimeout := some (-4), reputationDeltaOnReject := some (-4) }),
    ("real_estate_services", {}),
    ("financial_services",
      { reputationDeltaOnTimeout := some (-4), reputationDeltaOnReject := some (-5) }),
    ("marketing_advertising", {}),
    ("education_training", {}),
    ("healthcare_medical",
      { reputationDeltaOnTimeout := some (-5), reputationDeltaOnReject := some (-5) })]

/-- The entry of the scene over the defaults. -/
def scenePolicy (sceneId : SceneId) : ScenePolicy :=
  let scene := (scenes.lookup sceneId).getD {}
  { reputationDeltaOnTimeout :=
      scene.reputationDeltaOnTimeout <|> globalDefaults.reputationDeltaOnTimeout
    reputationDeltaOnReject :=
      scene.reputationDeltaOnReject <|> globalDefaults.reputationDeltaOnReject
    maxReputationHitPerEvent :=
      scene.maxReputationHitPerEvent <|> globalDefaults.maxReputationHitPerEvent }

/-- `value or default`: a zero counts as absent. -/
def orDefault (value : Option ℚ) (default : ℚ) : ℚ :=
  let given := value.getD 0
  if given = 0 then default else given

def maxHit (sceneId : SceneId) : ℚ := orDefault (scenePolicy sceneId).maxReputationHitPerEvent 5

def reputationDelta (sceneId : SceneId) (reason : Reason) : ℚ :=
  let policy := scenePolicy sceneId
  let delta :=
    if reason = .timeout then orDefault policy.reputationDeltaOnTimeout (-2)
    else orDefault policy.reputationDeltaOnReject (-3)
  max (-maxHit sceneId) (min 0 delta)

/-- No scene has a bound of its own. -/
theorem maxHit_eq (sceneId : SceneId) : maxHit sceneId = 5 := by
  have none : ∀ row ∈ scenes, row.2.maxReputationHitPerEvent = none := by decide
  have here : ((scenes.lookup sceneId).getD {}).maxReputationHitPerEvent = Option.none := by
    cases found : scenes.lookup sceneId with
    | none => rfl
    | some policy =>
        obtain ⟨before, after, whole, _⟩ := List.lookup_eq_some_iff.1 found
        exact none (sceneId, policy) (by rw [whole]; simp)
  simp [maxHit, scenePolicy, here, globalDefaults, orDefault]

theorem reputationDelta_mem (sceneId : SceneId) (reason : Reason) :
    -maxHit sceneId ≤ reputationDelta sceneId reason ∧ reputationDelta sceneId reason ≤ 0 := by
  have below : -maxHit sceneId ≤ 0 := by
    rw [maxHit_eq]
    decide
  exact ⟨le_max_left _ _, max_le below (min_le_left _ _)⟩

/-! ## Events and counters -/

inductive Outcome where
  | nonConfirm (reason : Reason) (reputationDelta : ℚ) (nonConfirmCountAfter : ℕ)
  | confirmed

structure LedgerEvent where
  eventId : String
  outcome : Outcome
  sellerId : AgentId
  sceneId : SceneId
  interactionRef : Option String
  sessionId : Option SessionId
  amount : Option Double
  createdAt : Int

namespace LedgerEvent

def missed (event : LedgerEvent) (reason : Reason) : Bool :=
  match event.outcome with
  | .nonConfirm given _ _ => given = reason
  | .confirmed => false

def confirms (event : LedgerEvent) : Bool :=
  match event.outcome with
  | .nonConfirm _ _ _ => false
  | .confirmed => true

/-- The delta of a non-confirm; a confirmation has none. -/
def delta (event : LedgerEvent) : ℚ :=
  match event.outcome with
  | .nonConfirm _ delta _ => delta
  | .confirmed => 0

end LedgerEvent

/-- `f"sae_{number:06d}"`. -/
def eventId (number : ℕ) : String :=
  let digits := Nat.toDigits 10 number
  "sae_" ++ .ofList (List.replicate (6 - digits.length) '0' ++ digits)

structure SceneCounts where
  nonConfirmCount : ℕ := 0
  timeoutCount : ℕ := 0
  rejectCount : ℕ := 0

structure SellerEntry where
  nonConfirmCount : ℕ := 0
  timeoutCount : ℕ := 0
  rejectCount : ℕ := 0
  confirmCount : ℕ := 0
  reputationDeltaTotal : ℚ := 0
  lastEventAt : Option Int := none
  byScene : Table SceneId SceneCounts := .empty

def SceneCounts.miss (counts : SceneCounts) (reason : Reason) : SceneCounts where
  nonConfirmCount := counts.nonConfirmCount + 1
  timeoutCount := counts.timeoutCount + if reason = .timeout then 1 else 0
  rejectCount := counts.rejectCount + if reason = .reject then 1 else 0

namespace SellerEntry

def scene (entry : SellerEntry) (sceneId : SceneId) : SceneCounts :=
  (entry.byScene.get sceneId).getD {}

def miss (entry : SellerEntry) (now : Int) (sceneId : SceneId) (reason : Reason) (delta : ℚ) :
    SellerEntry where
  nonConfirmCount := entry.nonConfirmCount + 1
  timeoutCount := entry.timeoutCount + if reason = .timeout then 1 else 0
  rejectCount := entry.rejectCount + if reason = .reject then 1 else 0
  confirmCount := entry.confirmCount
  reputationDeltaTotal := entry.reputationDeltaTotal + delta
  lastEventAt := some (iso now)
  byScene := entry.byScene.set sceneId ((entry.scene sceneId).miss reason)

def confirm (entry : SellerEntry) (now : Int) : SellerEntry :=
  { entry with confirmCount := entry.confirmCount + 1, lastEventAt := some (iso now) }

end SellerEntry

/-! ## The ledger -/

/-- `_LEDGER`. -/
structure Ledger where
  sellers : Table AgentId SellerEntry := .empty
  events : List LedgerEvent := []

/-- The ledger, and every event that was ever entered, those cut off included. -/
structure Books where
  ledger : Ledger := {}
  history : List LedgerEvent := []

/-- What a call says about an order. -/
structure Order where
  sellerId : AgentId
  sceneId : SceneId
  interactionRef : Option String := none
  sessionId : Option SessionId := none
  amount : Option Double := none

def Ledger.entry (ledger : Ledger) (sellerId : AgentId) : SellerEntry :=
  (ledger.sellers.get sellerId).getD {}

/-- Only the last 4000 of more than 5000 events are kept. -/
def cut (events : List LedgerEvent) : List LedgerEvent :=
  if 5000 < events.length then events.drop (events.length - 4000) else events

/-- The event of a session, if it names one and it was entered before. -/
def Ledger.earlier (ledger : Ledger) (sessionId : Option SessionId)
    (kind : LedgerEvent → Bool) : Option LedgerEvent :=
  if orEmpty sessionId = "" then none
  else ledger.events.find? fun event => event.sessionId = sessionId && kind event

namespace Books

variable (books : Books) (now : Int) (order : Order)

/-- `_seller_entry`: an unknown seller gets an entry. -/
def openSeller (sellerId : AgentId) : Books :=
  match books.ledger.sellers.get sellerId with
  | some _ => books
  | none =>
      { books with ledger.sellers := books.ledger.sellers.set sellerId {} }

def missEvent (reason : Reason) : LedgerEvent where
  eventId := eventId (books.ledger.events.length + 1)
  outcome := .nonConfirm reason (reputationDelta order.sceneId reason)
    ((books.ledger.entry order.sellerId).nonConfirmCount + 1)
  sellerId := order.sellerId
  sceneId := order.sceneId
  interactionRef := order.interactionRef
  sessionId := order.sessionId
  amount := order.amount
  createdAt := iso now

def confirmEvent : LedgerEvent where
  eventId := eventId (books.ledger.events.length + 1)
  outcome := .confirmed
  sellerId := order.sellerId
  sceneId := order.sceneId
  interactionRef := order.interactionRef
  sessionId := order.sessionId
  amount := order.amount
  createdAt := iso now

/-- The entry of a new no-show. -/
def miss (reason : Reason) : Books where
  ledger :=
    { sellers := books.ledger.sellers.set order.sellerId
        ((books.ledger.entry order.sellerId).miss now order.sceneId reason
          (reputationDelta order.sceneId reason))
      events := cut (books.ledger.events ++ [books.missEvent now order reason]) }
  history := books.history ++ [books.missEvent now order reason]

/-- The entry of a new confirmation, after which nothing is cut. -/
def confirm : Books where
  ledger :=
    { sellers := books.ledger.sellers.set order.sellerId
        ((books.ledger.entry order.sellerId).confirm now)
      events := books.ledger.events ++ [books.confirmEvent now order] }
  history := books.history ++ [books.confirmEvent now order]

end Books

/-- What a call returns, apart from the profile and the liability that it computes from the
ledger: whether the event was there before, and the event. -/
structure Recorded where
  idempotent : Bool
  event : LedgerEvent

/-- The end of both calls: `seller_risk_profile` refuses a blank seller, after the entry was
made, and opens an entry for the stripped name. -/
def profiled (books : Books) (sellerId : AgentId) (recorded : Recorded) :
    Books × Except AcceptError Recorded :=
  if Runtime.strip sellerId = "" then (books, .error .sellerRequired)
  else (books.openSeller (Runtime.strip sellerId), .ok recorded)

def recordSellerNonConfirm (books : Books) (now : Int) (order : Order) (reason : String) :
    Books × Except AcceptError Recorded :=
  match Reason.named reason with
  | none => (books, .error .reason)
  | some reason =>
      match books.ledger.earlier order.sessionId (·.missed reason) with
      | some event => profiled books order.sellerId ⟨true, event⟩
      | none =>
          profiled (books.miss now order reason) order.sellerId
            ⟨false, books.missEvent now order reason⟩

def recordSellerConfirm (books : Books) (now : Int) (order : Order) :
    Books × Except AcceptError Recorded :=
  match books.ledger.earlier order.sessionId (·.confirms) with
  | some event => profiled books order.sellerId ⟨true, event⟩
  | none =>
      profiled (books.confirm now order) order.sellerId ⟨false, books.confirmEvent now order⟩

/-! ## Orders that run out

A seller who has to accept an order is asked by a confirmation session. When it runs out, the
next look at it, or a sweep over the pending ones, enters the no-show and cancels the session.
-/

open OwnerConfirmation (SessionId ConfirmationSession markSessionExpiredCancelled
  listPendingSellerAcceptSessions)

structure World where
  books : Books := {}
  confirmations : OwnerConfirmation.World := {}

/-- The reason that a session is cancelled for when it has run out. -/
def timeoutReason : String := "seller_accept_timeout"

/-- The order that a session asks a seller to accept. -/
def orderOf (sessionId : SessionId) (session : ConfirmationSession) : Order where
  sellerId := session.ownerAgentId
  sceneId := if session.sceneId = "" then "api_tool_call" else session.sceneId
  interactionRef := session.interactionRef
  sessionId := some sessionId
  amount := session.maxAmount

/-- A session in which a seller accepts an order. -/
def IsSellerAccept (session : ConfirmationSession) : Prop :=
  session.role = "seller" ∧ session.step = "accept_order"

instance (session : ConfirmationSession) : Decidable (IsSellerAccept session) :=
  inferInstanceAs (Decidable (_ ∧ _))

/-- `process_expired_seller_session`; no record for a session that is unknown, not of this kind
or not run out. -/
def processExpiredSellerSession (world : World) (now : Int) (sessionId : SessionId)
    (applyCancel : Bool) : World × Except AcceptError (Option Recorded) :=
  match world.confirmations.sessions.get sessionId with
  | none => (world, .ok none)
  | some stored =>
      let session := stored.expireIfNeeded now
      let looked := { world with confirmations := world.confirmations.expire now [sessionId] }
      let recorded := recordSellerNonConfirm world.books now (orderOf sessionId session) "timeout"
      if IsSellerAccept session then
        if session.status = .cancelled ∧ session.cancelReason = some timeoutReason then
          ({ looked with books := recorded.1 }, recorded.2.map some)
        else if session.status = .expired then
          match recorded with
          | (books, .error error) => ({ looked with books := books }, .error error)
          | (books, .ok record) =>
              if applyCancel then
                ({ books
                   confirmations := (markSessionExpiredCancelled looked.confirmations now sessionId
                     timeoutReason).1 }, .ok (some record))
              else ({ looked with books := books }, .ok (some record))
        else (looked, .ok none)
      else (looked, .ok none)

/-- The sessions that `list_pending_seller_accept_sessions` returns. -/
def pendingSellerAccepts (world : World) (limit : ℕ) : List SessionId :=
  let listed := world.confirmations.sessions.rows.filter fun row =>
    row.2.role = "seller" && row.2.step = "accept_order" && row.2.status ∈ [.pending, .expired]
  (listed.take (max limit 1)).map Prod.fst

/-- The loop of the sweep, which an exception ends. -/
def expireEach (now : Int) : List SessionId → World → World
  | [], world => world
  | sessionId :: rest, world =>
      if sessionId = "" then expireEach now rest world
      else
        match world.confirmations.sessions.get sessionId with
        | none => expireEach now rest world
        | some session =>
            let looked :=
              { world with confirmations := world.confirmations.expire now [sessionId] }
            if (session.expireIfNeeded now).status = .expired then
              match processExpiredSellerSession looked now sessionId true with
              | (next, .ok _) => expireEach now rest next
              | (next, .error _) => next
            else expireEach now rest looked

def expirePendingSellerAccepts (world : World) (now : Int) (limit : ℕ) : World :=
  expireEach now (pendingSellerAccepts world limit)
    { world with
      confirmations := listPendingSellerAcceptSessions world.confirmations now limit }

inductive Action where
  | nonConfirm (now : Int) (order : Order) (reason : String)
  | confirm (now : Int) (order : Order)
  | process (now : Int) (sessionId : SessionId) (applyCancel : Bool)
  | sweep (now : Int) (limit : ℕ)
  /-- Any other request to the confirmation service. -/
  | confirmation (action : OwnerConfirmation.Action)

def perform (config : OwnerConfirmation.Config) (world : World) : Action → Option World
  | .nonConfirm now order reason =>
      some { world with books := (recordSellerNonConfirm world.books now order reason).1 }
  | .confirm now order =>
      some { world with books := (recordSellerConfirm world.books now order).1 }
  | .process now sessionId applyCancel =>
      some (processExpiredSellerSession world now sessionId applyCancel).1
  | .sweep now limit => some (expirePendingSellerAccepts world now limit)
  | .confirmation action =>
      (OwnerConfirmation.perform config world.confirmations action).map fun confirmations =>
        { world with confirmations }

def system (config : OwnerConfirmation.Config) : TransitionSystem World Action where
  Init world := world = {}
  Step world action next := perform config world action = some next

end TrustChain.AcceptFulfillment
