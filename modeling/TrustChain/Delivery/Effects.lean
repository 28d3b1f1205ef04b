import TrustChain.Delivery.Sessions

/-!
# What an operation does to a session

An operation raises, or it appends an event and moves the status; what `try_verify` then derives
adds no event of a party.
-/

namespace TrustChain.Delivery

open Library

/-- The operations on a session. -/
inductive Operation where
  | issueCaptureChallenge (challengeId nonce partyRole : String) (geoHash : Option String)
  | submitProof (request : Session.ProofRequest)
  | sellerShip (actor : AgentId) (shipProofHash : Option String)
  | logisticsIntake (actor : AgentId) (itemMatches : Bool)
  | logisticsDeliver (request : Session.ProofRequest)
  | markExecutionReceipt (ok : Bool)
  | tryVerify
  | buyerConfirm (actor : AgentId) (confirm : Bool)
  | applySilentBuyerDefault

/-- The outcome of an operation. -/
def Operation.run (config : Config) (now : Int) (session : Session) :
    Operation → Except DeliveryError Session
  | .issueCaptureChallenge challengeId nonce partyRole geoHash =>
      session.issueCaptureChallenge config now challengeId nonce partyRole geoHash
  | .submitProof request => session.submitProof config now request
  | .sellerShip actor shipProofHash => session.sellerShip now actor shipProofHash
  | .logisticsIntake actor itemMatches => session.logisticsIntake now actor itemMatches
  | .logisticsDeliver request => session.logisticsDeliver config now request
  | .markExecutionReceipt ok => .ok (session.markExecutionReceipt now ok)
  | .tryVerify => .ok (session.tryVerify config now)
  | .buyerConfirm actor confirm => session.buyerConfirm config now actor confirm
  | .applySilentBuyerDefault => .ok (session.applySilentBuyerDefault config now)

/-- The session after an operation, whether that raises or not. -/
def Operation.apply (config : Config) (now : Int) (session : Session) (operation : Operation) :
    Session :=
  (operation.run config now session).toOption.getD session

/-- The parts of a session that no operation changes. -/
structure SameDeal (session after : Session) : Prop where
  verificationId : after.verificationId = session.verificationId
  taskId : after.taskId = session.taskId
  mode : after.mode = session.mode
  sellerAgentId : after.sellerAgentId = session.sellerAgentId
  buyerAgentId : after.buyerAgentId = session.buyerAgentId
  logisticsAgentId : after.logisticsAgentId = session.logisticsAgentId

/-- What `try_verify` may change: it appends events of its own and verifies the session. -/
structure Derived (session after : Session) : Prop where
  deal : SameDeal session after
  challenges : after.challenges = session.challenges
  buyerSilentDeadline : after.buyerSilentDeadline = session.buyerSilentDeadline
  events : ∃ derived, after.events = session.events ++ derived ∧
    ∀ event ∈ derived, event.kind ∈ [.proofFieldsCovered, .autoVerifiedDigital] ∧
      event.proof = none

namespace Session

variable (now : Int) (session : Session)

/-- The session after a proof. -/
def withProof (request : ProofRequest) : Session :=
  { session with
    proofs := session.proofs.set (request.proof now).proofType (request.proof now) }.appendEvent now
    (.proof (request.proof now).proofType) (some request.actorAgentId) (some (request.proof now))

/-- The nonce and the role of a tagged proof are those of a challenge that is not expired. -/
def Challenged (proof : Proof) : Prop :=
  ∃ challenge ∈ session.challenges, some challenge.nonce = proof.nonce ∧
    some challenge.partyRole = proof.partyRole ∧ proof.submittedAt ≤ challenge.expiresAt

/-- The session after the parties have met and the silence of the buyer starts. -/
def delivered (kind : EventKind) (actor : AgentId) (deadline : Option Int) : Session :=
  { session.appendEvent now kind (some actor) with
    status := .awaitingBuyerReceipt
    buyerSilentDeadline := deadline }

end Session

/-- What an operation may do to a session. -/
inductive Effect (config : Config) (now : Int) (session : Session) : Operation → Session → Prop
  | none (operation : Operation) : Effect config now session operation session
  | challenged (challengeId nonce partyRole : String) (geoHash : Option String)
      (challenge : CaptureChallenge) :
      Effect config now session (.issueCaptureChallenge challengeId nonce partyRole geoHash)
        { session with challenges := session.challenges ++ [challenge] }
  | proved (request : Session.ProofRequest) :
      (Session.tagged (request.proof now).proofType = true →
        session.Challenged (request.proof now)) →
      Effect config now session (.submitProof request) (session.withProof now request)
  | shipped (shipProofHash : Option String) (proofs : Table String Proof) :
      session.mode.physical = true → session.status ∈ [.awaitingSellerShip, .created] →
      Effect config now session (.sellerShip session.sellerAgentId shipProofHash)
        { session.appendEvent now .sellerShipped (some session.sellerAgentId) with
          proofs, status := .awaitingLogisticsIntake }
  | issued (shipProofHash : Option String) (kind : EventKind) (deadline : Option Int) :
      session.mode.physical = false →
      kind ∈ [.sellerIssuedConfirmation, .sellerTripCompleted, .sellerDeliveredDigital] →
      Effect config now session (.sellerShip session.sellerAgentId shipProofHash)
        (session.delivered now kind session.sellerAgentId deadline)
  | takenIn (actor : AgentId) :
      session.mode.physical = true → some actor = session.logisticsAgentId →
      session.status = .awaitingLogisticsIntake →
      Effect config now session (.logisticsIntake actor true)
        { session.appendEvent now .logisticsIntakeOk (some actor) with status := .inTransit }
  | refused (actor : AgentId) :
      session.mode.physical = true → some actor = session.logisticsAgentId →
      session.status = .awaitingLogisticsIntake →
      Effect config now session (.logisticsIntake actor false)
        { session.appendEvent now .logisticsWrongItem (some actor) with status := .wrongItem }
  | handedOver (request : Session.ProofRequest) (deadline : Option Int) :
      session.mode.physical = true → some request.actorAgentId = session.logisticsAgentId →
      session.status ∈ [.inTransit, .awaitingLogisticsDeliver] →
      session.hasEvent .logisticsIntakeOk = true →
      (Session.tagged (request.proof now).proofType = true →
        session.Challenged ({ request with partyRole := "logistics" }.proof now)) →
      Effect config now session (.logisticsDeliver request)
        ((session.withProof now { request with partyRole := "logistics" }).delivered now
          .logisticsDelivered request.actorAgentId deadline)
  | receipt (ok : Bool) :
      Effect config now session (.markExecutionReceipt ok) (session.markExecutionReceipt now ok)
  | tried : Effect config now session .tryVerify (session.tryVerify config now)
  | confirmed : session.status ∉ [.verified, .wrongItem, .failed] →
      (session.mode.physical = false ∨ session.chainOk = true) →
      Effect config now session (.buyerConfirm session.buyerAgentId true)
        ((session.confirmed now).tryVerify config now)
  | rejected : session.status ∉ [.verified, .wrongItem, .failed] →
      Effect config now session (.buyerConfirm session.buyerAgentId false)
        { session.appendEvent now .buyerRejected with status := .rejected }
  | silenced : session.silenceOver now = true → session.chainOk = true →
      Effect config now session .applySilentBuyerDefault
        ((session.silenced now).tryVerify config now)

section Effects

variable {config : Config} {now : Int} {session : Session}

theorem effect_of_ok {operation : Operation}
    (done : ∀ after, operation.run config now session = .ok after →
      Effect config now session operation after) :
    Effect config now session operation (operation.apply config now session) := by
  unfold Operation.apply
  cases ran : operation.run config now session with
  | error => exact .none operation
  | ok after => exact done after ran

theorem verifyTag_challenged {partyRole nonce capturedAt tagHmac : String} {geoHash : Option String}
    {proof : Proof}
    (valid : session.verifyTag config now partyRole nonce capturedAt geoHash tagHmac = .ok ())
    (nonceIs : proof.nonce = some nonce) (roleIs : proof.partyRole = some partyRole)
    (timeIs : proof.submittedAt = iso now) : session.Challenged proof := by
  simp only [Session.verifyTag, require_bind_eq_ok] at valid
  obtain ⟨-, valid⟩ := valid
  cases found : session.challenges.find? (fun challenge =>
      challenge.nonce = nonce && challenge.partyRole = partyRole) with
  | none => simp [found] at valid
  | some challenge =>
      simp only [found, require_eq_ok, after, decide_eq_false_iff_not, not_lt] at valid
      have is := List.find?_some found
      simp only [Bool.and_eq_true, decide_eq_true_eq] at is
      refine ⟨challenge, List.mem_of_find?_eq_some found, ?_, ?_, ?_⟩
      · rw [nonceIs, is.1]
      · rw [roleIs, is.2]
      · rw [timeIs, iso]
        omega

theorem submitProof_eq_ok {request : Session.ProofRequest} {after : Session}
    (ran : session.submitProof config now request = .ok after) :
    after = session.withProof now request ∧
      (Session.tagged (request.proof now).proofType = true →
        session.Challenged (request.proof now)) := by
  simp only [Session.submitProof, require_bind_eq_ok] at ran
  obtain ⟨-, -, ran⟩ := ran
  by_cases tag : Session.tagged (request.proof now).proofType = true
  · simp only [tag, if_true, require_bind_eq_ok] at ran
    obtain ⟨given, ran⟩ := ran
    obtain ⟨⟨⟩, valid, is⟩ := bind_eq_ok.mp ran
    refine ⟨(Except.ok.inj is).symm, fun _ => verifyTag_challenged valid ?_ rfl rfl⟩
    cases nonce : request.nonce with
    | none => simp [nonce, orEmpty] at given
    | some nonce => simp [Session.ProofRequest.proof, nonce, orEmpty]
  · simp only [tag, Bool.false_eq_true, if_false] at ran
    exact ⟨(Except.ok.inj ran).symm, fun tagged => absurd tagged tag⟩

theorem sellerShip_effect {actor : AgentId} {shipProofHash : Option String} {after : Session}
    (ran : session.sellerShip now actor shipProofHash = .ok after) :
    Effect config now session (.sellerShip actor shipProofHash) after := by
  simp only [Session.sellerShip, require_bind_eq_ok] at ran
  obtain ⟨rfl, ran⟩ := ran
  cases mode : session.mode with
  | physicalTriple =>
      simp only [mode, require_bind_eq_ok] at ran
      obtain ⟨waiting, is⟩ := ran
      obtain rfl := Except.ok.inj is
      exact .shipped shipProofHash _ (by simp [mode, Mode.physical]) waiting
  | ticketStub | rideTrack | digitalLight | other =>
      simp only [mode] at ran
      obtain rfl := Except.ok.inj ran
      exact .issued shipProofHash _ _ (by simp [mode, Mode.physical]) (by simp)

theorem apply_effect (operation : Operation) :
    Effect config now session operation (operation.apply config now session) := by
  refine effect_of_ok fun after ran => ?_
  cases operation with
  | issueCaptureChallenge challengeId nonce partyRole geoHash =>
      simp only [Operation.run, Session.issueCaptureChallenge, require_bind_eq_ok] at ran
      obtain ⟨-, is⟩ := ran
      obtain rfl := Except.ok.inj is
      exact .challenged _ _ _ _ _
  | submitProof request =>
      obtain ⟨rfl, challenged⟩ := submitProof_eq_ok ran
      exact .proved request challenged
  | sellerShip actor shipProofHash => exact sellerShip_effect ran
  | logisticsIntake actor itemMatches =>
      simp only [Operation.run, Session.logisticsIntake, require_bind_eq_ok] at ran
      obtain ⟨physical, logistics, waiting, is⟩ := ran
      cases itemMatches with
      | true =>
          obtain rfl := Except.ok.inj is
          exact .takenIn actor physical logistics waiting
      | false =>
          obtain rfl := Except.ok.inj is
          exact .refused actor physical logistics waiting
  | logisticsDeliver request =>
      simp only [Operation.run, Session.logisticsDeliver, require_bind_eq_ok] at ran
      obtain ⟨physical, logistics, underway, takenIn, ran⟩ := ran
      obtain ⟨proved, submitted, is⟩ := bind_eq_ok.mp ran
      obtain ⟨rfl, challenged⟩ := submitProof_eq_ok submitted
      obtain rfl := Except.ok.inj is
      exact .handedOver request _ physical logistics underway takenIn challenged
  | markExecutionReceipt ok =>
      obtain rfl := Except.ok.inj ran
      exact .receipt ok
  | tryVerify =>
      obtain rfl := Except.ok.inj ran
      exact .tried
  | buyerConfirm actor confirm =>
      simp only [Operation.run, Session.buyerConfirm, require_bind_eq_ok] at ran
      obtain ⟨rfl, ran⟩ := ran
      split at ran
      · obtain rfl := Except.ok.inj ran
        exact .none _
      · rename_i undecided
        simp only [require_bind_eq_ok] at ran
        obtain ⟨complete, is⟩ := ran
        cases confirm with
        | true =>
            obtain rfl := Except.ok.inj is
            exact .confirmed undecided complete
        | false =>
            obtain rfl := Except.ok.inj is
            exact .rejected undecided
  | applySilentBuyerDefault =>
      obtain rfl := Except.ok.inj ran
      unfold Session.applySilentBuyerDefault
      split
      · rename_i late
        rw [Bool.and_eq_true] at late
        exact .silenced late.1 late.2
      · exact .none _

/-! ## What stays -/

theorem SameDeal.refl (session : Session) : SameDeal session session := ⟨rfl, rfl, rfl, rfl, rfl, rfl⟩

theorem SameDeal.trans {between after : Session} (first : SameDeal session between)
    (second : SameDeal between after) : SameDeal session after :=
  ⟨second.verificationId.trans first.verificationId, second.taskId.trans first.taskId,
    second.mode.trans first.mode, second.sellerAgentId.trans first.sellerAgentId,
    second.buyerAgentId.trans first.buyerAgentId,
    second.logisticsAgentId.trans first.logisticsAgentId⟩

theorem prepared_derived (config : Config) (now : Int) (session : Session) :
    Derived session (session.prepared config now) := by
  unfold Session.prepared Session.coverProofFields
  split
  · simp only []
    split
    · split
      · exact ⟨⟨rfl, rfl, rfl, rfl, rfl, rfl⟩, rfl, rfl, [], (List.append_nil _).symm, by simp⟩
      · exact ⟨⟨rfl, rfl, rfl, rfl, rfl, rfl⟩, rfl, rfl, _, rfl, by simp⟩
    · exact ⟨⟨rfl, rfl, rfl, rfl, rfl, rfl⟩, rfl, rfl, [], (List.append_nil _).symm, by simp⟩
  · exact ⟨.refl session, rfl, rfl, [], (List.append_nil _).symm, by simp⟩

theorem Derived.trans {between after : Session} (first : Derived session between)
    (second : Derived between after) : Derived session after := by
  obtain ⟨firsts, firstEvents, firstKinds⟩ := first.events
  obtain ⟨seconds, secondEvents, secondKinds⟩ := second.events
  refine ⟨first.deal.trans second.deal, second.challenges.trans first.challenges,
    second.buyerSilentDeadline.trans first.buyerSilentDeadline, firsts ++ seconds, ?_, ?_⟩
  · rw [secondEvents, firstEvents, List.append_assoc]
  · intro event member
    exact (List.mem_append.mp member).elim (firstKinds event) (secondKinds event)

theorem tryVerify_derived (config : Config) (now : Int) (session : Session) :
    Derived session (session.tryVerify config now) := by
  rcases Session.tryVerify_cases config now session with ⟨-, same⟩ | ⟨-, -, same⟩ | ⟨-, -, verifies⟩
  · rw [same]
    exact ⟨.refl session, rfl, rfl, [], (List.append_nil _).symm, by simp⟩
  · rw [same]
    exact prepared_derived config now session
  · refine (prepared_derived config now session).trans ?_
    generalize session.tryVerify config now = result at verifies
    cases verifies with
    | silently => exact ⟨⟨rfl, rfl, rfl, rfl, rfl, rfl⟩, rfl, rfl, [], (List.append_nil _).symm, by simp⟩
    | automatically => exact ⟨⟨rfl, rfl, rfl, rfl, rfl, rfl⟩, rfl, rfl, _, rfl, by simp⟩

theorem Effect.sameDeal {operation : Operation} {after : Session}
    (effect : Effect config now session operation after) : SameDeal session after := by
  cases effect with
  | tried => exact (tryVerify_derived config now session).deal
  | confirmed =>
      have confirmed : SameDeal session (session.confirmed now) := ⟨rfl, rfl, rfl, rfl, rfl, rfl⟩
      exact confirmed.trans (tryVerify_derived config now _).deal
  | silenced =>
      have silenced : SameDeal session (session.silenced now) := ⟨rfl, rfl, rfl, rfl, rfl, rfl⟩
      exact silenced.trans (tryVerify_derived config now _).deal
  | receipt ok => cases ok <;> exact ⟨rfl, rfl, rfl, rfl, rfl, rfl⟩
  | none | challenged | proved | shipped | issued | takenIn | refused | handedOver | rejected =>
      exact ⟨rfl, rfl, rfl, rfl, rfl, rfl⟩

theorem apply_sameDeal (operation : Operation) :
    SameDeal session (operation.apply config now session) := (apply_effect operation).sameDeal

theorem foldl_sameDeal (operations : List Operation) :
    SameDeal session (operations.foldl (Operation.apply config now) session) := by
  induction operations generalizing session with
  | nil => exact .refl session
  | cons operation rest ih => exact (apply_sameDeal operation).trans ih

end Effects

end TrustChain.Delivery
