import Mathlib.Data.List.Infix
import TrustChain.Runtime.Keys

/-!
# Delivery verification sessions

A session follows one delivery. What seller, logistics and buyer do is appended to its events,
and the status says what it waits for; the verification is derived again from the events and the
proofs whenever somebody asks for it. An operation that raises leaves the session alone.
-/

namespace TrustChain.Delivery

open Library

abbrev VerificationId := String
abbrev TaskId := String
abbrev SceneId := String
abbrev AgentId := String

inductive Mode where
  | physicalTriple | ticketStub | rideTrack | digitalLight
  /-- A mode that no branch of the code knows. -/
  | other (name : String)
deriving DecidableEq

namespace Mode

/-- `PHYSICAL_MODES`. -/
def physical (mode : Mode) : Bool := mode = .physicalTriple

/-- `TICKET_MODES`. -/
def ticket (mode : Mode) : Bool := mode = .ticketStub

/-- `DIGITAL_MODES`. -/
def digital (mode : Mode) : Bool := mode ∈ [.digitalLight, .rideTrack]

end Mode

inductive SessionStatus where
  | created | awaitingSellerShip | awaitingLogisticsIntake | inTransit | awaitingLogisticsDeliver
  | awaitingBuyerReceipt | buyerConfirmed | buyerSilentDefault | verified | wrongItem | rejected
  | failed | disputed
deriving DecidableEq

structure ScenePolicy where
  mode : Mode
  requireMatchedIfCapture : Bool := true
  requiredEvents : List String
  buyerSilentConfirmSeconds : Option Int := some 1800
  highRisk : Bool := false

/-- The catalog of scenes, the proof fields that the standard of a scene requires, the HMAC under
the tag master key, and how a time is printed. -/
structure Config where
  scenes : SceneId → Option ScenePolicy
  requiredProofFields : SceneId → List String
  hmac : String → String
  printTime : Int → String

/-- `scene_policy`. -/
def Config.scenePolicy (config : Config) (sceneId : SceneId) : ScenePolicy :=
  (config.scenes sceneId).getD {
    mode := .digitalLight
    requiredEvents := ["execution_receipt_success", "proof_fields_covered"]
    buyerSilentConfirmSeconds := some 0 }

/-- `_iso`: the clock counts microseconds, a time stamp whole seconds. -/
def iso (now : Int) : Int := now / 1000000

/-- `now > stamp`. -/
def after (now stamp : Int) : Bool := stamp * 1000000 < now

inductive EventKind where
  | sellerShipped | sellerIssuedConfirmation | sellerTripCompleted | sellerDeliveredDigital
  | logisticsIntakeOk | logisticsWrongItem | logisticsDelivered | executionReceiptSuccess
  | proofFieldsCovered | autoVerifiedDigital | buyerConfirmed | buyerRejected | buyerSilentDefault
  | proof (proofType : String)
deriving DecidableEq

def EventKind.text : EventKind → String
  | .sellerShipped => "seller_shipped"
  | .sellerIssuedConfirmation => "seller_issued_confirmation"
  | .sellerTripCompleted => "seller_trip_completed"
  | .sellerDeliveredDigital => "seller_delivered_digital"
  | .logisticsIntakeOk => "logistics_intake_ok"
  | .logisticsWrongItem => "logistics_wrong_item"
  | .logisticsDelivered => "logistics_delivered"
  | .executionReceiptSuccess => "execution_receipt_success"
  | .proofFieldsCovered => "proof_fields_covered"
  | .autoVerifiedDigital => "auto_verified_digital"
  | .buyerConfirmed => "buyer_confirmed"
  | .buyerRejected => "buyer_rejected"
  | .buyerSilentDefault => "buyer_silent_default"
  | .proof proofType => "proof:" ++ proofType

structure Proof where
  proofType : String
  contentHash : String
  partyRole : Option String := none
  actorAgentId : Option AgentId := none
  nonce : Option String := none
  capturedAt : Option String := none
  geoHash : Option String := none
  tagHmac : Option String := none
  submittedAt : Int

/-- An event. The whole of a submitted proof is kept with it for the proofs. -/
structure Event where
  kind : EventKind
  time : Int
  actorAgentId : Option AgentId := none
  proof : Option Proof := none

structure CaptureChallenge where
  challengeId : String
  partyRole : String
  nonce : String
  capturedAt : Int
  geoHash : String
  tagHmac : String
  expiresAt : Int

structure Session where
  verificationId : VerificationId
  taskId : TaskId
  sceneId : SceneId
  mode : Mode
  status : SessionStatus
  sellerAgentId : AgentId
  buyerAgentId : AgentId
  logisticsAgentId : Option AgentId
  requiredEvents : List String
  buyerSilentConfirmSeconds : Option Int
  events : List Event := []
  proofs : Table String Proof := .empty
  challenges : List CaptureChallenge := []
  buyerSilentDeadline : Option Int := none
  verifiedAt : Option Int := none
  highRisk : Bool
  executionReceiptOk : Bool := false
  proofFieldsOk : Bool := false

inductive DeliveryError where
  | unknownVerification
  | logisticsRequired
  | logisticsNotDistinct
  | captureUnavailable
  | captureNotMatched (status : String)
  | captureSceneMismatch
  | badPartyRole
  | proofRequired
  | contentHashTooShort
  | tagRequired
  | tagMismatch
  | unknownNonce
  | challengeExpired
  | onlySeller
  | cannotShip (status : SessionStatus)
  | onlyPhysical
  | onlyLogistics
  | cannotIntake (status : SessionStatus)
  | cannotDeliver (status : SessionStatus)
  | intakeRequired
  | onlyBuyer
  | cannotConfirm
  | sessionRequired
  | notVerified (status : SessionStatus)
deriving DecidableEq

/-- `sub in text`. -/
def occurs (sub text : String) : Bool := sub.toList <:+: text.toList

/-- `text.endswith(suffix)`. -/
def endsWith (suffix text : String) : Bool := suffix.toList <:+ text.toList

/-- `value or ""`. -/
def orEmpty (text : Option String) : String := text.getD ""

namespace Session

variable (session : Session)

/-- `_append_event`. -/
def appendEvent (now : Int) (kind : EventKind) (actor : Option AgentId := none)
    (proof : Option Proof := none) : Session :=
  { session with events := session.events ++ [⟨kind, iso now, actor, proof⟩] }

/-- `_has_event`. -/
def hasEvent (kind : EventKind) : Bool := session.events.any (·.kind = kind)

/-! ## Capture challenges and proofs -/

/-- What a tag is an HMAC of. -/
def material (role nonce capturedAt geo : String) : String :=
  "|".intercalate [session.verificationId, session.taskId, role, nonce, capturedAt, geo]

/-- `issue_capture_challenge`, with a nonce and an identifier drawn at random. -/
def issueCaptureChallenge (config : Config) (now : Int) (challengeId nonce partyRole : String)
    (geoHash : Option String) : Except DeliveryError Session := do
  let role := Runtime.strip partyRole.toLower
  require (role ∈ ["seller", "logistics", "buyer"]) .badPartyRole
  let geo := Runtime.strip (orEmpty geoHash)
  .ok { session with challenges := session.challenges ++ [{
    challengeId
    partyRole := role
    nonce
    capturedAt := iso now
    geoHash := geo
    tagHmac := config.hmac (session.material role nonce (config.printTime (iso now)) geo)
    expiresAt := iso (now + 15 * 60 * 1000000) }] }

/-- `_verify_tag`. -/
def verifyTag (config : Config) (now : Int) (partyRole nonce capturedAt : String)
    (geoHash : Option String) (tagHmac : String) : Except DeliveryError Unit := do
  require (config.hmac (session.material partyRole nonce capturedAt
    (Runtime.strip (orEmpty geoHash))) = tagHmac) .tagMismatch
  match session.challenges.find? (fun challenge =>
      challenge.nonce = nonce && challenge.partyRole = partyRole) with
  | none => .error .unknownNonce
  | some challenge => require (after now challenge.expiresAt = false) .challengeExpired

/-- A request to `submit_proof`. -/
structure ProofRequest where
  proofType : String
  contentHash : String
  actorAgentId : AgentId
  partyRole : String
  nonce : Option String := none
  capturedAt : Option String := none
  geoHash : Option String := none
  tagHmac : Option String := none

/-- Whether a proof is a photo with a tag. -/
def tagged (proofType : String) : Bool := endsWith "_tagged" proofType

/-- The proof that `submit_proof` stores. -/
def ProofRequest.proof (now : Int) (request : ProofRequest) : Proof where
  proofType := Runtime.strip request.proofType
  contentHash := request.contentHash
  partyRole := some (Runtime.strip request.partyRole.toLower)
  actorAgentId := some request.actorAgentId
  nonce := request.nonce
  capturedAt := request.capturedAt
  geoHash := request.geoHash
  tagHmac := request.tagHmac
  submittedAt := iso now

/-- `submit_proof`. -/
def submitProof (config : Config) (now : Int) (request : ProofRequest) :
    Except DeliveryError Session := do
  let proof := request.proof now
  require (proof.proofType ≠ "" ∧ request.contentHash ≠ "") .proofRequired
  require (16 ≤ request.contentHash.length) .contentHashTooShort
  if tagged proof.proofType then
    require (orEmpty request.nonce ≠ "" ∧ orEmpty request.capturedAt ≠ "" ∧
      orEmpty request.tagHmac ≠ "") .tagRequired
    session.verifyTag config now (orEmpty proof.partyRole) (orEmpty request.nonce)
      (orEmpty request.capturedAt) request.geoHash (orEmpty request.tagHmac)
  .ok ({ session with proofs := session.proofs.set proof.proofType proof }.appendEvent now
    (.proof proof.proofType) (some request.actorAgentId) (some proof))

/-! ## Seller and logistics -/

/-- `seller_ship`. -/
def sellerShip (now : Int) (actor : AgentId) (shipProofHash : Option String) :
    Except DeliveryError Session := do
  require (actor = session.sellerAgentId) .onlySeller
  match session.mode with
  | .physicalTriple =>
      require (session.status ∈ [.awaitingSellerShip, .created]) (.cannotShip session.status)
      let shipped := session.appendEvent now .sellerShipped (some actor)
      let proofs :=
        if orEmpty shipProofHash = "" then shipped.proofs
        else shipped.proofs.set "ship_ref"
          { proofType := "ship_ref", contentHash := orEmpty shipProofHash, submittedAt := iso now }
      .ok { shipped with proofs, status := .awaitingLogisticsIntake }
  | .ticketStub =>
      .ok { session.appendEvent now .sellerIssuedConfirmation (some actor) with
        status := .awaitingBuyerReceipt }
  | .rideTrack =>
      let silent := session.buyerSilentConfirmSeconds.getD 0
      .ok { session.appendEvent now .sellerTripCompleted (some actor) with
        status := .awaitingBuyerReceipt
        buyerSilentDeadline :=
          if 0 < silent then some (iso (now + silent * 1000000)) else session.buyerSilentDeadline }
  | .digitalLight | .other _ =>
      .ok { session.appendEvent now .sellerDeliveredDigital (some actor) with
        status := .awaitingBuyerReceipt }

/-- `logistics_intake`. -/
def logisticsIntake (now : Int) (actor : AgentId) (itemMatches : Bool) :
    Except DeliveryError Session := do
  require session.mode.physical .onlyPhysical
  require (some actor = session.logisticsAgentId) .onlyLogistics
  require (session.status = .awaitingLogisticsIntake) (.cannotIntake session.status)
  if itemMatches then
    .ok { session.appendEvent now .logisticsIntakeOk (some actor) with status := .inTransit }
  else
    .ok { session.appendEvent now .logisticsWrongItem (some actor) with status := .wrongItem }

/-- `logistics_deliver`; `request` is what it submits as proof, in the role of the logistics. -/
def logisticsDeliver (config : Config) (now : Int) (request : ProofRequest) :
    Except DeliveryError Session := do
  require session.mode.physical .onlyPhysical
  require (some request.actorAgentId = session.logisticsAgentId) .onlyLogistics
  require (session.status ∈ [.inTransit, .awaitingLogisticsDeliver])
    (.cannotDeliver session.status)
  require (session.hasEvent .logisticsIntakeOk) .intakeRequired
  let proved ← session.submitProof config now { request with partyRole := "logistics" }
  let silent := session.buyerSilentConfirmSeconds.getD 1800
  .ok { proved.appendEvent now .logisticsDelivered (some request.actorAgentId) with
    status := .awaitingBuyerReceipt
    buyerSilentDeadline :=
      if 0 < silent then some (iso (now + silent * 1000000)) else proved.buyerSilentDeadline }

/-! ## Verification -/

/-- `_proof_keys_present`. -/
def proofKeysPresent : List String := session.proofs.rows.map Prod.fst

/-- `kind in _event_kinds(sess)`, for any text. -/
def hasKind (text : String) : Bool := session.events.any (·.kind.text = text)

/-- The proof types that satisfy a requirement. -/
def aliases : String → List String
  | "delivery_photo_tagged" => ["delivery_photo_tagged", "delivery_photo_or_code"]
  | "email_receipt_or_confirmation_code" =>
      ["email_receipt", "confirmation_code", "booking_ref", "email_receipt_or_confirmation_code"]
  | "ticket_number_or_pnr" => ["ticket_number_hash", "pnr", "ticket_number_or_pnr"]
  | "email_receipt_ref" => ["email_receipt", "email_receipt_ref"]
  | "route_or_odometer" => ["route_or_odometer", "route_track_hash"]
  | "qa_or_quantity" => ["qa_report_hash", "quantity_accepted", "qa_or_quantity"]
  | "service_completion_ref" => ["service_completion_ref", "completion_code", "appointment_ack"]
  | "attendance_or_completion_ref" =>
      ["attendance_or_completion_ref", "attendance_code", "certificate_ref"]
  | key => [key]

/-- Whether a required event, given by name, is there. -/
def satisfies (required : String) : Bool :=
  if required = "proof:recipient_ack_or_silent" then
    session.hasEvent .buyerConfirmed || session.hasEvent .buyerSilentDefault ||
      "recipient_ack" ∈ session.proofKeysPresent
  else if required = "proof_fields_covered" then true
  else if required = "execution_receipt_success" then
    session.hasEvent .executionReceiptSuccess || session.executionReceiptOk
  else if required = "buyer_explicit_accept" then session.hasEvent .buyerConfirmed
  else if "proof:".toList <+: required.toList then
    (aliases (String.ofList (required.toList.drop 6))).any fun allowed =>
      allowed ∈ session.proofKeysPresent || session.hasKind ("proof:" ++ allowed)
  else session.hasKind required

/-- The events that `_required_satisfied` misses. -/
def missingEvents : List String := session.requiredEvents.filter (!session.satisfies ·)

/-- `assert_seller_logistics_chain_ok`. -/
def chainOk : Bool :=
  match session.mode with
  | .physicalTriple =>
      session.hasEvent .sellerShipped && session.hasEvent .logisticsIntakeOk &&
        session.hasEvent .logisticsDelivered && decide (session.status ≠ .wrongItem) &&
        ["delivery_photo_tagged", "delivery_photo_or_code"].any (· ∈ session.proofKeysPresent)
  | .rideTrack => session.hasEvent .sellerTripCompleted
  | .ticketStub => session.hasEvent .sellerIssuedConfirmation
  | .digitalLight | .other _ => true

/-- `mark_execution_receipt`. -/
def markExecutionReceipt (now : Int) (ok : Bool) : Session :=
  let marked := { session with executionReceiptOk := ok }
  if ok then marked.appendEvent now .executionReceiptSuccess else marked

/-- What a proof type stands for when proof fields are covered. -/
def covers (key : String) : List String :=
  if tagged key then
    key :: key.replace "_tagged" "" ::
      if occurs "delivery_photo" key then
        ["delivery_photo_or_code", "delivery_proof", "delivered_at", "recipient_ack"]
      else []
  else [key]

/-- `cover_proof_fields_from_if`. -/
def coverProofFields (config : Config) (now : Int) (submittedFieldKeys : List String) : Session :=
  let required := config.requiredProofFields session.sceneId
  let submitted := (submittedFieldKeys ++ session.proofKeysPresent).flatMap covers
  let missing := required.filter fun field =>
    field ∉ submitted && !submitted.any fun key => occurs field key || occurs key field
  if missing.isEmpty then
    let covered :=
      if session.hasEvent .proofFieldsCovered then session
      else session.appendEvent now .proofFieldsCovered
    { covered with proofFieldsOk := true }
  else { session with proofFieldsOk := false }

/-- The statuses that `try_verify` leaves alone. -/
def closed : List SessionStatus := [.verified, .wrongItem, .failed, .disputed]

/-- The session with its proof fields covered, where `try_verify` covers them. -/
def prepared (config : Config) (now : Int) : Session :=
  if session.mode.digital && session.executionReceiptOk then
    session.coverProofFields config now []
  else session

def verify (now : Int) : Session :=
  { session with status := .verified, verifiedAt := some (iso now) }

/-- `try_verify`. -/
def tryVerify (config : Config) (now : Int) : Session :=
  if session.status ∈ closed then session
  else
    let prepared := session.prepared config now
    let missing :=
      if prepared.proofFieldsOk then prepared.missingEvents.filter (· ≠ "proof_fields_covered")
      else prepared.missingEvents
    let verified := prepared.verify now
    if prepared.highRisk && !prepared.hasEvent .buyerConfirmed then prepared
    else if !missing.isEmpty then prepared
    else if prepared.hasEvent .buyerConfirmed || prepared.hasEvent .buyerSilentDefault then verified
    else if prepared.mode.digital && !prepared.highRisk then
      if prepared.executionReceiptOk &&
          (prepared.proofFieldsOk || prepared.buyerSilentConfirmSeconds = some 0) then
        if prepared.hasEvent .autoVerifiedDigital then verified
        else verified.appendEvent now .autoVerifiedDigital
      else prepared
    else if prepared.mode.ticket && prepared.hasEvent .sellerIssuedConfirmation then
      if prepared.status = .buyerConfirmed then verified else prepared
    else prepared

/-! ## The buyer -/

def confirmed (now : Int) : Session :=
  { session.appendEvent now .buyerConfirmed with status := .buyerConfirmed }

/-- `buyer_confirm`. -/
def buyerConfirm (config : Config) (now : Int) (actor : AgentId) (confirm : Bool) :
    Except DeliveryError Session := do
  require (actor = session.buyerAgentId) .onlyBuyer
  if session.status ∈ [.verified, .wrongItem, .failed] then .ok session
  else
    require (session.mode.physical = false ∨ session.chainOk = true) .cannotConfirm
    if confirm then .ok ((session.confirmed now).tryVerify config now)
    else
      .ok { session.appendEvent now .buyerRejected with status := .rejected }

/-- Whether the silence of the buyer is over. -/
def silenceOver (now : Int) : Bool :=
  session.status ∉ [.verified, .buyerConfirmed, .buyerSilentDefault, .wrongItem, .failed, .rejected]
    && !session.highRisk && 0 < session.buyerSilentConfirmSeconds.getD 0 &&
    session.buyerSilentDeadline.any (after now ·)

/-- The session with the silence of the buyer taken for a confirmation. -/
def silenced (now : Int) : Session :=
  { session.appendEvent now .buyerSilentDefault with status := .buyerSilentDefault }

/-- `apply_silent_buyer_default`. -/
def applySilentBuyerDefault (config : Config) (now : Int) : Session :=
  if session.silenceOver now && session.chainOk then (session.silenced now).tryVerify config now
  else session

/-! ## What the verification derives -/

/-- What makes `try_verify` verify a session whose proof fields it has covered. -/
def ready : Bool :=
  (!session.highRisk || session.hasEvent .buyerConfirmed) && session.missingEvents.isEmpty &&
    (session.hasEvent .buyerConfirmed || session.hasEvent .buyerSilentDefault ||
      session.mode.digital && session.executionReceiptOk &&
        (session.proofFieldsOk || session.buyerSilentConfirmSeconds = some 0) ||
      session.mode.ticket && session.hasEvent .sellerIssuedConfirmation &&
        session.status = .buyerConfirmed)

section Verification

variable {config : Config} {now : Int} {session : Session}

@[simp] theorem confirmed_status : (session.confirmed now).status = .buyerConfirmed := rfl

@[simp] theorem silenced_status : (session.silenced now).status = .buyerSilentDefault := rfl

theorem satisfies_proofFieldsCovered : session.satisfies "proof_fields_covered" = true := rfl

/-- The proof fields are never missed, so there is nothing to filter out. -/
theorem filter_missingEvents :
    session.missingEvents.filter (· ≠ "proof_fields_covered") = session.missingEvents := by
  refine List.filter_eq_self.mpr fun required member => decide_eq_true ?_
  rintro rfl
  have missed := (List.mem_filter.mp member).2
  simp [satisfies_proofFieldsCovered] at missed

/-- A verified session, with the event that a digital one leaves. -/
inductive Verifies (now : Int) (session : Session) : Session → Prop
  | silently : Verifies now session (session.verify now)
  | automatically : Verifies now session ((session.verify now).appendEvent now .autoVerifiedDigital)

/-- `try_verify` leaves a closed session alone, and else covers the proof fields of the session
and verifies it if it is ready. -/
theorem tryVerify_cases (config : Config) (now : Int) (session : Session) :
    (session.status ∈ closed ∧ session.tryVerify config now = session) ∨
    (session.status ∉ closed ∧ (session.prepared config now).ready = false ∧
      session.tryVerify config now = session.prepared config now) ∨
    (session.status ∉ closed ∧ (session.prepared config now).ready = true ∧
      Verifies now (session.prepared config now) (session.tryVerify config now)) := by
  by_cases done : session.status ∈ closed
  · exact .inl ⟨done, by simp [tryVerify, done]⟩
  · right
    simp only [tryVerify, done, if_false, filter_missingEvents, ite_self, not_false_eq_true,
      true_and]
    generalize session.prepared config now = prepared
    by_cases risky : (prepared.highRisk && !prepared.hasEvent .buyerConfirmed) = true
    · refine .inl ⟨?_, by rw [if_pos risky]⟩
      simp only [Bool.and_eq_true, Bool.not_eq_true'] at risky
      simp [ready, risky]
    · have explicit : (!prepared.highRisk || prepared.hasEvent .buyerConfirmed) = true := by
        simpa [or_iff_not_imp_left] using risky
      rw [if_neg risky]
      by_cases missing : prepared.missingEvents.isEmpty = true
      · simp only [missing, Bool.not_true, Bool.false_eq_true, if_false]
        by_cases spoken : (prepared.hasEvent .buyerConfirmed ||
            prepared.hasEvent .buyerSilentDefault) = true
        · rw [if_pos spoken]
          exact .inr ⟨by simp [ready, explicit, missing, spoken], .silently⟩
        · rw [if_neg spoken]
          have unspoken := Bool.eq_false_of_not_eq_true spoken
          have unconfirmed : prepared.hasEvent .buyerConfirmed = false := by
            simp only [Bool.or_eq_false_iff] at unspoken
            exact unspoken.1
          have safe : prepared.highRisk = false := by simpa [unconfirmed] using explicit
          by_cases digital : prepared.mode.digital = true
          · have paperless : prepared.mode.ticket = false := by
              cases is : prepared.mode <;> simp_all [Mode.digital, Mode.ticket]
            simp only [digital, safe, Bool.not_false, Bool.and_self, if_true]
            by_cases received : (prepared.executionReceiptOk &&
                (prepared.proofFieldsOk || prepared.buyerSilentConfirmSeconds = some 0)) = true
            · rw [if_pos received]
              refine .inr ⟨by simp [ready, safe, missing, digital, received], ?_⟩
              split
              · exact .silently
              · exact .automatically
            · rw [if_neg received]
              refine .inl ⟨?_, rfl⟩
              simp [ready, safe, missing, unspoken, digital, paperless,
                Bool.eq_false_of_not_eq_true received]
          · simp only [Bool.eq_false_of_not_eq_true digital, Bool.false_and, Bool.false_eq_true,
              if_false]
            by_cases issued : (prepared.mode.ticket && prepared.hasEvent .sellerIssuedConfirmation) =
                true
            · rw [if_pos issued]
              by_cases confirmed : prepared.status = .buyerConfirmed
              · rw [if_pos confirmed]
                exact .inr ⟨by simp [ready, safe, missing, issued, confirmed], .silently⟩
              · rw [if_neg confirmed]
                exact .inl ⟨by simp [ready, safe, missing, unspoken, digital, issued, confirmed], rfl⟩
            · rw [if_neg issued]
              refine .inl ⟨?_, rfl⟩
              simp [ready, safe, missing, unspoken, digital, Bool.eq_false_of_not_eq_true issued]
      · simp only [Bool.eq_false_of_not_eq_true missing, Bool.not_false, if_true]
        exact .inl ⟨by simp [ready, missing], trivial⟩

theorem prepared_status : (session.prepared config now).status = session.status := by
  unfold prepared coverProofFields
  split
  · simp only []
    split
    · split <;> rfl
    · rfl
  · rfl

/-- `try_verify` changes no status but to verified. -/
theorem tryVerify_status (config : Config) (now : Int) (session : Session) :
    (session.tryVerify config now).status = session.status ∨
      (session.tryVerify config now).status = .verified := by
  rcases tryVerify_cases config now session with ⟨-, same⟩ | ⟨-, -, same⟩ | ⟨-, -, verifies⟩
  · exact .inl (congrArg Session.status same)
  · exact .inl ((congrArg Session.status same).trans prepared_status)
  · right
    generalize session.tryVerify config now = result at verifies
    cases verifies <;> rfl

end Verification

end Session

end TrustChain.Delivery
