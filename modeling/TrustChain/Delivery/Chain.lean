import TrustChain.Delivery.System
import TrustChain.Library.Occurrences

/-!
# The chain of a physical delivery

A physical delivery is verified after the seller has shipped, the logistics agent has taken the
goods over, photographed and delivered them, and the buyer has confirmed or kept silent for too
long. The photo is the one link that callers can leave out: they choose the type of the proof that
comes with a delivery, and may use a challenge again.
-/

namespace TrustChain.Delivery

open Library

/-- The nonce of a tagged proof in the role of the logistics. -/
def Proof.logisticsNonce (proof : Proof) : Option String :=
  if Session.tagged proof.proofType ∧ proof.partyRole = some "logistics" then proof.nonce else none

/-- The nonce that an event has used for a photo of the logistics. -/
def Event.usedNonce (event : Event) : Option String := event.proof.bind (·.logisticsNonce)

namespace Session

variable (session : Session)

/-- The nonces that photos of the logistics have used. -/
def usedNonces : List String := session.events.filterMap Event.usedNonce

def ShippedBy (event : Event) : Prop :=
  event.kind = .sellerShipped ∧ event.actorAgentId = some session.sellerAgentId

def TakenInBy (event : Event) : Prop :=
  event.kind = .logisticsIntakeOk ∧ event.actorAgentId = session.logisticsAgentId

/-- The logistics agent hands in a delivery photo under a challenge for its role. -/
def PhotographedBy (event : Event) : Prop :=
  event.kind = .proof "delivery_photo_tagged" ∧ event.actorAgentId = session.logisticsAgentId ∧
    ∃ proof nonce, event.proof = some proof ∧ proof.logisticsNonce = some nonce ∧
      session.Challenged proof

def DeliveredBy (event : Event) : Prop :=
  event.kind = .logisticsDelivered ∧ event.actorAgentId = session.logisticsAgentId

/-- The buyer confirms, or has kept silent beyond the deadline. -/
def Concluded (event : Event) : Prop :=
  event.kind = .buyerConfirmed ∨ event.kind = .buyerSilentDefault ∧
    ∃ deadline, session.buyerSilentDeadline = some deadline ∧ deadline ≤ event.time

/-- Everything that makes a physical delivery, in this order, with a photo whose challenge no other
photo has used. -/
def WholeChain : Prop :=
  ∃ shipped takenIn photo delivered concluded : Event,
    [shipped, takenIn, photo, delivered, concluded].Sublist session.events ∧
    session.ShippedBy shipped ∧ session.TakenInBy takenIn ∧ session.PhotographedBy photo ∧
    session.DeliveredBy delivered ∧ session.Concluded concluded ∧
    ∃ nonce, photo.usedNonce = some nonce ∧ session.usedNonces.count nonce = 1

end Session

/-- A delivery comes with a tagged delivery photo, and no photo of the logistics uses a nonce
again. -/
def Operation.Genuine (now : Int) (session : Session) : Operation → Prop
  | .submitProof request => session.mode.physical = true →
      ∀ nonce, (request.proof now).logisticsNonce = some nonce → nonce ∉ session.usedNonces
  | .logisticsDeliver request => session.mode.physical = true →
      Runtime.strip request.proofType = "delivery_photo_tagged" ∧
      ∀ nonce, ({ request with partyRole := "logistics" }.proof now).logisticsNonce = some nonce →
        nonce ∉ session.usedNonces
  | _ => True

def Genuine (world : World) : Action → Prop
  | .operate now verificationId operation => ∀ session,
      world.sessions.get verificationId = some session → operation.Genuine now session
  | _ => True

section Proofs

variable {config : Config} {now : Int} {session after : Session} {operation : Operation}

/-- The steps of a delivery up to the handing over. -/
def deliverySteps (session : Session) : List (Event → Prop) :=
  [session.ShippedBy, session.TakenInBy, session.PhotographedBy, session.DeliveredBy]

/-- The statuses before the handing over. -/
def early : List SessionStatus :=
  [.created, .awaitingSellerShip, .awaitingLogisticsIntake, .inTransit, .awaitingLogisticsDeliver]

/-- The events from which the verification of a physical delivery is derived. -/
def keyKinds : List EventKind :=
  [.logisticsIntakeOk, .logisticsDelivered, .buyerConfirmed, .buyerSilentDefault]

/-- The buyer has confirmed or kept silent for too long. -/
def Session.spoken (session : Session) : Bool :=
  session.hasEvent .buyerConfirmed || session.hasEvent .buyerSilentDefault

/-- What the events of a physical session show. -/
structure Chained (session : Session) : Prop where
  shipped : session.status = .awaitingLogisticsIntake → Occur [session.ShippedBy] session.events
  takenIn : session.hasEvent .logisticsIntakeOk = true →
    Occur [session.ShippedBy, session.TakenInBy] session.events
  delivered : session.hasEvent .logisticsDelivered = true →
    session.status ∉ early ∧ Occur (deliverySteps session) session.events
  concluded : session.spoken = true →
    Occur (deliverySteps session ++ [session.Concluded]) session.events
  verified : session.status = .verified → session.spoken = true
  nonces : session.usedNonces.Nodup

theorem hasEvent_append {extra : List Event} (appended : after.events = session.events ++ extra)
    (kind : EventKind) :
    after.hasEvent kind = (session.hasEvent kind || extra.any (·.kind = kind)) := by
  simp [Session.hasEvent, appended]

/-- Events of other kinds change nothing about a kind. -/
theorem hasEvent_of_harmless {extra : List Event} (appended : after.events = session.events ++ extra)
    (harmless : ∀ event ∈ extra, event.kind ∉ keyKinds) {kind : EventKind} (key : kind ∈ keyKinds) :
    after.hasEvent kind = session.hasEvent kind := by
  have none : extra.any (·.kind = kind) = false := by
    refine List.any_eq_false.mpr fun event member is => ?_
    exact harmless event member (of_decide_eq_true is ▸ key)
  rw [hasEvent_append appended, none, Bool.or_false]

theorem deliverySteps_mono (deal : SameDeal session after)
    (challenges : session.challenges ⊆ after.challenges) :
    List.Forall₂ (fun step weaker => ∀ entry, step entry → weaker entry) (deliverySteps session)
      (deliverySteps after) := by
  have shipped : ∀ event, session.ShippedBy event → after.ShippedBy event := by
    rintro event ⟨kind, actor⟩
    exact ⟨kind, deal.sellerAgentId ▸ actor⟩
  have takenIn : ∀ event, session.TakenInBy event → after.TakenInBy event := by
    rintro event ⟨kind, actor⟩
    exact ⟨kind, deal.logisticsAgentId ▸ actor⟩
  have photographed : ∀ event, session.PhotographedBy event → after.PhotographedBy event := by
    rintro event ⟨kind, actor, proof, nonce, has, used, challenge, inside, is⟩
    exact ⟨kind, deal.logisticsAgentId ▸ actor, proof, nonce, has, used, challenge,
      challenges inside, is⟩
  have delivered : ∀ event, session.DeliveredBy event → after.DeliveredBy event := by
    rintro event ⟨kind, actor⟩
    exact ⟨kind, deal.logisticsAgentId ▸ actor⟩
  exact .cons shipped (.cons takenIn (.cons photographed (.cons delivered .nil)))

theorem concluded_mono (deal : SameDeal session after)
    (challenges : session.challenges ⊆ after.challenges)
    (deadline : after.buyerSilentDeadline = session.buyerSilentDeadline)
    (occur : Occur (deliverySteps session ++ [session.Concluded]) session.events) :
    Occur (deliverySteps after ++ [after.Concluded]) session.events := by
  refine occur.mono (List.rel_append (deliverySteps_mono deal challenges) (.cons ?_ .nil))
  rintro event (confirmed | ⟨silent, late⟩)
  · exact .inl confirmed
  · exact .inr ⟨silent, deadline ▸ late⟩

theorem spoken_of_harmless {extra : List Event} (appended : after.events = session.events ++ extra)
    (harmless : ∀ event ∈ extra, event.kind ∉ keyKinds) : after.spoken = session.spoken := by
  unfold Session.spoken
  rw [hasEvent_of_harmless appended harmless (by simp [keyKinds]),
    hasEvent_of_harmless appended harmless (by simp [keyKinds])]

/-- Events of other kinds keep the chain, if the status does. -/
theorem Chained.extend {extra : List Event} (chained : Chained session)
    (deal : SameDeal session after) (challenges : session.challenges ⊆ after.challenges)
    (deadline : after.buyerSilentDeadline = session.buyerSilentDeadline)
    (appended : after.events = session.events ++ extra)
    (harmless : ∀ event ∈ extra, event.kind ∉ keyKinds)
    (shipped : after.status = .awaitingLogisticsIntake → Occur [after.ShippedBy] after.events)
    (late : session.hasEvent .logisticsDelivered = true → after.status ∉ early)
    (verified : after.status = .verified → session.spoken = true)
    (nonces : after.usedNonces.Nodup) : Chained after := by
  have weakens := deliverySteps_mono deal challenges
  refine ⟨shipped, fun taken => ?_, fun handed => ?_, fun spoken => ?_, fun is => ?_, nonces⟩
  · rw [hasEvent_of_harmless appended harmless (by simp [keyKinds])] at taken
    rw [appended]
    refine ((chained.takenIn taken).mono ?_).append extra
    rcases weakens with _ | ⟨first, _ | ⟨second, _⟩⟩
    exact .cons first (.cons second .nil)
  · rw [hasEvent_of_harmless appended harmless (by simp [keyKinds])] at handed
    rw [appended]
    exact ⟨late handed, ((chained.delivered handed).2.mono weakens).append extra⟩
  · rw [spoken_of_harmless appended harmless] at spoken
    rw [appended]
    exact (concluded_mono deal challenges deadline (chained.concluded spoken)).append extra
  · rw [spoken_of_harmless appended harmless]
    exact verified is

theorem usedNonces_of_proofless {extra : List Event}
    (appended : after.events = session.events ++ extra)
    (proofless : ∀ event ∈ extra, event.proof = none) : after.usedNonces = session.usedNonces := by
  have none : extra.filterMap Event.usedNonce = [] := by
    refine List.filterMap_eq_nil_iff.mpr fun event member => ?_
    simp [Event.usedNonce, proofless event member]
  simp [Session.usedNonces, appended, none]

/-- A physical session is verified when the buyer has spoken. -/
theorem spoken_of_ready (physical : session.mode.physical = true)
    (ready : (session.prepared config now).ready = true) : session.spoken = true := by
  have triple : session.mode = .physicalTriple := by simpa [Mode.physical] using physical
  have same : session.prepared config now = session := by
    simp [Session.prepared, triple, Mode.digital]
  rw [same] at ready
  simp only [Session.ready, triple, Mode.digital, Mode.ticket, Bool.and_eq_true] at ready
  simpa [Session.spoken] using ready.2

theorem Chained.tryVerify (chained : Chained session) (physical : session.mode.physical = true) :
    Chained (session.tryVerify config now) := by
  have derived := tryVerify_derived config now session
  obtain ⟨extra, appended, kinds⟩ := derived.events
  have status := Session.tryVerify_status config now session
  refine chained.extend derived.deal (by rw [derived.challenges]; exact List.Subset.refl _)
    derived.buyerSilentDeadline appended ?_ ?_ ?_ ?_ ?_
  · intro event member
    have kind := (kinds event member).1
    simp only [List.mem_cons, List.not_mem_nil, or_false] at kind
    rcases kind with is | is <;> simp [is, keyKinds]
  · intro waiting
    rcases status with same | verified
    · rw [appended]
      refine ((chained.shipped (same ▸ waiting)).mono (.cons ?_ .nil)).append extra
      rintro event ⟨kind, actor⟩
      exact ⟨kind, derived.deal.sellerAgentId ▸ actor⟩
    · simp [verified] at waiting
  · intro handed
    rcases status with same | verified
    · exact same ▸ (chained.delivered handed).1
    · simp [verified, early]
  · intro verified
    rcases Session.tryVerify_cases config now session with ⟨-, same⟩ | ⟨-, -, same⟩ | ⟨-, ready, -⟩
    · exact chained.verified (same ▸ verified)
    · rw [same, Session.prepared_status] at verified
      exact chained.verified verified
    · exact spoken_of_ready physical ready
  · rw [usedNonces_of_proofless appended fun event member => (kinds event member).2]
    exact chained.nonces

theorem usedNonces_withProof (request : Session.ProofRequest) :
    (session.withProof now request).usedNonces =
      session.usedNonces ++ (request.proof now).logisticsNonce.toList := by
  cases nonce : (request.proof now).logisticsNonce <;>
    simp [Session.usedNonces, Session.withProof, Session.appendEvent, Event.usedNonce, nonce]

theorem nodup_withProof {request : Session.ProofRequest} (distinct : session.usedNonces.Nodup)
    (fresh : ∀ nonce, (request.proof now).logisticsNonce = some nonce →
      nonce ∉ session.usedNonces) : (session.withProof now request).usedNonces.Nodup := by
  rw [usedNonces_withProof]
  cases is : (request.proof now).logisticsNonce with
  | none => simpa using distinct
  | some nonce =>
      rw [Option.toList_some, List.nodup_append]
      refine ⟨distinct, List.nodup_singleton _, ?_⟩
      rintro used inside _ last rfl
      obtain rfl := List.mem_singleton.mp last
      exact fresh _ is inside

/-- A new session has no chain yet. -/
theorem chained_fresh (fresh : Fresh session) : Chained session := by
  have never : ∀ kind, session.hasEvent kind = false := by
    intro kind
    simp [Session.hasEvent, fresh.events]
  have status := fresh.status
  refine ⟨?_, ?_, ?_, ?_, ?_, ?_⟩
  · intro waiting
    simp [waiting] at status
  · simp [never]
  · simp [never]
  · simp [Session.spoken, never]
  · intro verified
    simp [verified] at status
  · simp [Session.usedNonces, fresh.events]

/-- Before the handing over nothing is delivered, and the buyer has not spoken. -/
theorem Chained.unspoken (chained : Chained session) (waiting : session.status ∈ early) :
    session.hasEvent .logisticsDelivered = false ∧ session.spoken = false := by
  have undelivered : session.hasEvent .logisticsDelivered = false := by
    by_contra handed
    exact (chained.delivered (Bool.eq_true_of_not_eq_false handed)).1 waiting
  refine ⟨undelivered, ?_⟩
  by_contra spoken
  have occur := chained.concluded (Bool.eq_true_of_not_eq_false spoken)
  have step : session.DeliveredBy ∈ deliverySteps session ++ [session.Concluded] := by
    simp [deliverySteps]
  obtain ⟨event, inside, kind, -⟩ := occur.exists_of_mem step
  refine Bool.eq_false_iff.mp undelivered ?_
  exact List.any_eq_true.mpr ⟨event, inside, decide_eq_true kind⟩

/-- The goods are taken over after the seller has shipped. -/
theorem Chained.takeIn {actor : AgentId} (chained : Chained session)
    (logistics : some actor = session.logisticsAgentId)
    (waiting : session.status = .awaitingLogisticsIntake) :
    Chained { session.appendEvent now .logisticsIntakeOk (some actor) with
      status := .inTransit } := by
  obtain ⟨undelivered, unspoken⟩ := chained.unspoken (by simp [waiting, early])
  refine ⟨by simp, fun _ => ?_, fun handed => ?_, fun spoken => ?_, by simp, ?_⟩
  · exact (chained.shipped waiting).snoc ⟨rfl, logistics⟩
  · rw [hasEvent_append rfl, undelivered] at handed
    simp at handed
  · have silent : session.spoken = true := by
      simpa [Session.spoken, Session.hasEvent, Session.appendEvent] using spoken
    simp [unspoken] at silent
  · rw [usedNonces_of_proofless rfl (by simp)]
    exact chained.nonces

theorem Chained.handOver {request : Session.ProofRequest} {deadline : Option Int}
    (chained : Chained session) (logistics : some request.actorAgentId = session.logisticsAgentId)
    (underway : session.status ∈ [.inTransit, .awaitingLogisticsDeliver])
    (takenIn : session.hasEvent .logisticsIntakeOk = true)
    (photo : Runtime.strip request.proofType = "delivery_photo_tagged")
    (challenged : session.Challenged ({ request with partyRole := "logistics" }.proof now))
    (fresh : ∀ nonce, ({ request with partyRole := "logistics" }.proof now).logisticsNonce =
      some nonce → nonce ∉ session.usedNonces) :
    Chained ((session.withProof now { request with partyRole := "logistics" }).delivered now
      .logisticsDelivered request.actorAgentId deadline) := by
  have waiting : session.status ∈ early := by
    simp only [List.mem_cons, List.not_mem_nil, or_false] at underway
    rcases underway with is | is <;> simp [is, early]
  obtain ⟨-, unspoken⟩ := chained.unspoken waiting
  obtain ⟨challenge, inside, nonceIs, roleIs, timely⟩ := challenged
  have tag : Session.tagged "delivery_photo_tagged" = true := by decide
  have role : Runtime.strip "logistics".toLower = "logistics" := by decide +kernel
  have used : ({ request with partyRole := "logistics" }.proof now).logisticsNonce =
      some challenge.nonce := by
    rw [nonceIs]
    simp [Proof.logisticsNonce, Session.ProofRequest.proof, photo, tag, role]
  refine ⟨by simp [Session.delivered], fun _ => ?_, fun _ => ⟨by simp [Session.delivered, early], ?_⟩,
    fun spoken => ?_, by simp [Session.delivered], ?_⟩
  · exact ((chained.takenIn takenIn).append _).append _
  · refine ((chained.takenIn takenIn).snoc ⟨?_, logistics, _, _, rfl, used, ?_⟩).snoc
      ⟨rfl, logistics⟩
    · simp [Session.ProofRequest.proof, photo]
    · exact ⟨challenge, inside, nonceIs, roleIs, timely⟩
  · have silent : session.spoken = true := by
      simpa [Session.spoken, Session.hasEvent, Session.delivered, Session.withProof,
        Session.appendEvent] using spoken
    simp [unspoken] at silent
  · rw [@usedNonces_of_proofless (session.withProof now _) _ _ rfl (by simp)]
    exact nodup_withProof chained.nonces fresh

/-- The buyer's word completes the chain. -/
theorem Chained.conclude {kind : EventKind} {status : SessionStatus} (chained : Chained session)
    (handed : session.hasEvent .logisticsDelivered = true)
    (speaks : kind ∈ [.buyerConfirmed, .buyerSilentDefault])
    (concluded : session.Concluded ⟨kind, iso now, none, none⟩)
    (done : status ∈ [.buyerConfirmed, .buyerSilentDefault]) :
    Chained { session.appendEvent now kind with status } := by
  have late : status ∉ early ∧ status ≠ .verified := by
    simp only [List.mem_cons, List.not_mem_nil, or_false] at done
    rcases done with rfl | rfl <;> decide
  have chain := (chained.delivered handed).2
  refine ⟨?_, fun taken => ?_, fun _ => ⟨late.1, chain.append _⟩, fun _ => chain.snoc concluded,
    fun verified => absurd verified late.2, ?_⟩
  · rintro rfl
    simp [early] at late
  · rw [hasEvent_append rfl] at taken
    refine (chained.takenIn ?_).append _
    simp only [List.mem_cons, List.not_mem_nil, or_false] at speaks
    rcases speaks with rfl | rfl <;> simpa using taken
  · rw [usedNonces_of_proofless rfl (by simp)]
    exact chained.nonces

theorem delivered_of_chainOk (physical : session.mode.physical = true)
    (complete : session.chainOk = true) : session.hasEvent .logisticsDelivered = true := by
  have triple : session.mode = .physicalTriple := by simpa [Mode.physical] using physical
  simp only [Session.chainOk, triple, Bool.and_eq_true] at complete
  exact complete.1.1.2

/-- What an operation leaves of the chain of a physical session. -/
theorem Effect.chained (effect : Effect config now session operation after)
    (genuine : operation.Genuine now session) (physical : session.mode.physical = true)
    (chained : Chained session) : Chained after := by
  have deal := effect.sameDeal
  cases effect with
  | none => exact chained
  | challenged =>
      exact chained.extend deal (List.subset_append_left _ _) rfl (List.append_nil _).symm (by simp)
        chained.shipped (fun handed => (chained.delivered handed).1) chained.verified chained.nonces
  | proved request =>
      exact chained.extend deal (List.Subset.refl _) rfl rfl (by simp [keyKinds])
        (fun waiting => (chained.shipped waiting).append _)
        (fun handed => (chained.delivered handed).1) chained.verified
        (nodup_withProof chained.nonces (genuine physical))
  | shipped _ _ _ waiting =>
      refine chained.extend deal (List.Subset.refl _) rfl rfl (by simp [keyKinds])
        (fun _ => (Occur.nil session.events).snoc ⟨rfl, rfl⟩) (fun handed => ?_) (by simp) ?_
      · refine absurd ?_ (chained.delivered handed).1
        simp only [List.mem_cons, List.not_mem_nil, or_false] at waiting
        rcases waiting with is | is <;> simp [is, early]
      · rw [usedNonces_of_proofless rfl (by simp)]
        exact chained.nonces
  | issued _ _ _ paperless => simp [physical] at paperless
  | takenIn _ _ logistics waiting => exact chained.takeIn logistics waiting
  | refused | rejected =>
      refine chained.extend deal (List.Subset.refl _) rfl rfl (by simp [keyKinds]) (by simp)
        (fun _ => by simp [early]) (by simp) ?_
      rw [usedNonces_of_proofless rfl (by simp)]
      exact chained.nonces
  | handedOver request _ _ logistics underway takenIn challenged =>
      obtain ⟨photo, fresh⟩ := genuine physical
      refine chained.handOver logistics underway takenIn photo (challenged ?_) fresh
      simp only [Session.ProofRequest.proof, photo]
      decide
  | receipt ok =>
      cases ok with
      | false =>
          exact chained.extend deal (List.Subset.refl _) rfl (List.append_nil _).symm (by simp)
            chained.shipped (fun handed => (chained.delivered handed).1) chained.verified
            chained.nonces
      | true =>
          refine chained.extend deal (List.Subset.refl _) rfl rfl (by simp [keyKinds])
            (fun waiting => (chained.shipped waiting).append _)
            (fun handed => (chained.delivered handed).1) chained.verified ?_
          rw [usedNonces_of_proofless rfl (by simp)]
          exact chained.nonces
  | tried => exact chained.tryVerify physical
  | confirmed _ complete =>
      have handed := delivered_of_chainOk physical (complete.resolve_left (by simp [physical]))
      exact (chained.conclude handed (by simp) (.inl rfl) (by simp)).tryVerify physical
  | silenced late complete =>
      have handed := delivered_of_chainOk physical complete
      simp only [Session.silenceOver, Bool.and_eq_true, Option.any_eq_true, after,
        decide_eq_true_eq] at late
      obtain ⟨deadline, is, past⟩ := late.2
      refine (chained.conclude handed (by simp) (.inr ⟨rfl, deadline, is, ?_⟩)
        (by simp)).tryVerify physical
      show deadline ≤ iso now
      unfold iso
      omega

/-- A physical session is chained. -/
def Session.Linked (session : Session) : Prop := session.mode.physical = true → Chained session

theorem apply_linked (genuine : operation.Genuine now session) (linked : session.Linked) :
    (operation.apply config now session).Linked := by
  intro physical
  rw [(apply_sameDeal operation).mode] at physical
  exact (apply_effect operation).chained genuine physical (linked physical)

/-- The requests of the sweep and of the gate keep the chain. -/
theorem foldl_linked {operations : List Operation}
    (derived : ∀ operation ∈ operations, operation = .applySilentBuyerDefault ∨
      operation = .tryVerify) (linked : session.Linked) :
    (operations.foldl (Operation.apply config now) session).Linked := by
  induction operations generalizing session with
  | nil => exact linked
  | cons operation rest ih =>
      refine ih (fun later member => derived later (List.mem_cons_of_mem _ member)) ?_
      refine apply_linked ?_ linked
      rcases derived operation List.mem_cons_self with rfl | rfl <;> trivial

variable {world : World} {verificationId : VerificationId}

theorem linked_of_reachable (reachable : ((system config).restrict Genuine).Reachable world)
    (there : world.sessions.get verificationId = some session) : session.Linked := by
  refine session_invariant (fun session fresh _ => chained_fresh fresh) ?_ reachable there
  intro world verificationId session action genuine there linked
  cases action with
  | create => exact linked
  | operate time subject operation =>
      simp only [operations]
      split
      case isTrue same =>
        subst same
        exact apply_linked (genuine session there) linked
      case isFalse => exact linked
  | expireSilentBuyers time limit =>
      refine foldl_linked (fun operation member => ?_) linked
      simp only [operations] at member
      split at member
      · exact .inl (List.mem_singleton.mp member)
      · simp at member
  | requireVerifiedForSettle time taskId sceneId allow =>
      refine foldl_linked (fun operation member => ?_) linked
      rcases List.mem_append.mp member with inside | inside
      · split at inside
        · exact .inl (List.mem_singleton.mp inside)
        · simp at inside
      · split at inside
        · exact .inr (List.mem_singleton.mp inside)
        · simp at inside

theorem usedNonce_of_photographed {event : Event} (photographed : session.PhotographedBy event) :
    ∃ nonce, event.usedNonce = some nonce := by
  obtain ⟨-, -, proof, nonce, has, used, -⟩ := photographed
  refine ⟨nonce, ?_⟩
  unfold Event.usedNonce
  rw [has]
  exact used

/-- A chain that the buyer has concluded is whole. -/
theorem Chained.whole (chained : Chained session) (spoken : session.spoken = true) :
    session.WholeChain := by
  obtain ⟨_, holds, inside⟩ := occur_iff.mp (chained.concluded spoken)
  rcases holds with _ | ⟨shippedBy, _ | ⟨takenInBy, _ | ⟨photographedBy, _ | ⟨deliveredBy, rest⟩⟩⟩⟩
  rcases rest with _ | ⟨concluded, _ | _⟩
  refine ⟨_, _, _, _, _, inside, shippedBy, takenInBy, photographedBy, deliveredBy, concluded, ?_⟩
  obtain ⟨nonce, uses⟩ := usedNonce_of_photographed photographedBy
  refine ⟨nonce, uses, List.count_eq_one_of_mem chained.nonces ?_⟩
  exact List.mem_filterMap.mpr ⟨_, inside.subset (by simp), uses⟩

/-- In the runs of genuine requests a physical session is verified only when the whole chain of its
delivery is there. -/
theorem whole_chain_of_verified
    (reachable : ((system config).restrict Genuine).Reachable world)
    (there : world.sessions.get verificationId = some session)
    (physical : session.mode.physical = true) (verified : session.status = .verified) :
    session.WholeChain := by
  have chained := linked_of_reachable reachable there physical
  exact chained.whole (chained.verified verified)

end Proofs

namespace FoodDelivery

def config : Config where
  scenes sceneId := if sceneId = "food_delivery" then some {
      mode := .physicalTriple
      requiredEvents := ["seller_shipped", "logistics_intake_ok", "logistics_delivered",
        "proof:delivery_photo_tagged"] }
    else none
  requiredProofFields _ := []
  hmac material := material
  printTime _ := "t"

abbrev Scene := Library.Scene (perform config) {}

theorem Scene.run (scene : Scene) : (system config).Run {} scene.actions scene.world :=
  Library.Scene.run (fun _ _ _ performed => performed) scene

def session (scene : Scene) : Option Session := scene.world.sessions.get "d"

def photo : Session.ProofRequest where
  proofType := "delivery_photo_tagged"
  contentHash := "0123456789abcdef"
  actorAgentId := "l"
  partyRole := "logistics"
  nonce := some "n"
  capturedAt := some "t"
  tagHmac := some "d|t|logistics|n|t|"

/-- The courier has the meal. -/
def underway : Scene where
  actions := [.create "d" "t" "food_delivery" "s" "b" (some "l") none,
    .operate 1000000 "d" (.sellerShip "s" none),
    .operate 2000000 "d" (.logisticsIntake "l" true),
    .operate 3000000 "d" (.issueCaptureChallenge "c" "n" "logistics" none)]
  possible := by decide +kernel

def delivered : Scene :=
  underway.next (.operate 4000000 "d" (.logisticsDeliver photo)) (by decide +kernel)

def verified : Scene :=
  delivered.next (.operate 5000000 "d" (.buyerConfirm "b" true)) (by decide +kernel)

/-- The courier delivers with a code, and the picture comes from the seller. -/
def photographedBySeller : Scene where
  actions := [.create "d" "t" "food_delivery" "s" "b" (some "l") none,
    .operate 1000000 "d" (.sellerShip "s" none),
    .operate 2000000 "d" (.logisticsIntake "l" true),
    .operate 3000000 "d" (.logisticsDeliver { photo with proofType := "door_code" }),
    .operate 4000000 "d" (.submitProof
      { photo with proofType := "delivery_photo_or_code", actorAgentId := "s" }),
    .operate 5000000 "d" (.buyerConfirm "b" true)]
  possible := by decide +kernel

def unchallenged : Session := (session photographedBySeller).get (by decide +kernel)

def verifiedSession : Session := (session verified).get (by decide +kernel)

end FoodDelivery

/-- A delivery without any challenge is verified with a picture of the seller. -/
theorem verified_without_photo :
    (system FoodDelivery.config).Run {} FoodDelivery.photographedBySeller.actions
      FoodDelivery.photographedBySeller.world ∧
    FoodDelivery.photographedBySeller.world.sessions.get "d" = some FoodDelivery.unchallenged ∧
    FoodDelivery.unchallenged.mode.physical = true ∧
    FoodDelivery.unchallenged.status = .verified ∧ ¬ FoodDelivery.unchallenged.WholeChain := by
  refine ⟨FoodDelivery.photographedBySeller.run, (Option.some_get _).symm, by decide +kernel,
    by decide +kernel, ?_⟩
  rintro ⟨_, _, photo, _, _, -, -, -, ⟨-, -, _, _, -, -, challenge, inside, -⟩, -⟩
  have none : FoodDelivery.unchallenged.challenges.isEmpty = true := by decide +kernel
  rw [List.isEmpty_iff.mp none] at inside
  exact List.not_mem_nil inside

namespace FoodDelivery

theorem verified_genuine :
    ((system config).restrict Genuine).Run {} verified.actions verified.world := by
  have before : ((system config).restrict Genuine).Run {} underway.actions underway.world := by
    refine underway.run.restrict fun action member state => ?_
    simp only [underway, List.mem_cons, List.not_mem_nil, or_false] at member
    rcases member with rfl | rfl | rfl | rfl
    · trivial
    · exact fun _ _ => trivial
    · exact fun _ _ => trivial
    · exact fun _ _ => trivial
  have genuine : Genuine underway.world (.operate 4000000 "d" (.logisticsDeliver photo)) := by
    refine fun session there _ => ⟨by decide +kernel, fun nonce _ used => ?_⟩
    have unused : (underway.world.sessions.get "d").map (·.usedNonces.isEmpty) = some true := by
      decide +kernel
    rw [there, Option.map_some, Option.some.injEq, List.isEmpty_iff] at unused
    simp [unused] at used
  have delivery : ((system config).restrict Genuine).Run {} delivered.actions delivered.world :=
    before.snoc ⟨underway.performed _ _, genuine⟩
  exact delivery.snoc ⟨delivered.performed _ _, fun _ _ => trivial⟩

end FoodDelivery

theorem whole_chain_of_verified_meal : FoodDelivery.verifiedSession.WholeChain :=
  whole_chain_of_verified ⟨{}, _, rfl, FoodDelivery.verified_genuine⟩
    (Option.some_get _).symm (by decide +kernel) (by decide +kernel)

end TrustChain.Delivery
