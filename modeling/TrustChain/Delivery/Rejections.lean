import TrustChain.Delivery.System

/-!
# Rejections

A buyer's rejection should stand until the buyer confirms, a verified delivery should stay
verified, and the gate before a settlement should look at the newest session of its task. The
verification is derived from all events, though, also those before a rejection; a seller who ships
tickets, rides or digital goods is asked for no status; and the gate takes the first session of a
task. Where none of that happens, rejections stand.
-/

namespace TrustChain.Delivery

open Library

/-- What the buyer decides. -/
def decisions : List EventKind := [.buyerConfirmed, .buyerRejected]

/-- The last decision of the buyer is a rejection. -/
def Session.rejectionStands (session : Session) : Bool :=
  ((session.events.map (·.kind)).filter (· ∈ decisions)).getLast? = some .buyerRejected

/-- A session whose buyer has rejected is not verified. -/
def Session.Upheld (session : Session) : Prop :=
  session.rejectionStands = true → session.status ≠ .verified

/-- An operation does not ship a verified session again, and verifies none that the buyer has
rejected. -/
def Operation.Respects (config : Config) (now : Int) (session : Session) : Operation → Prop
  | .sellerShip actor _ => actor = session.sellerAgentId → session.mode.physical = false →
      session.status ≠ .verified
  | .tryVerify => session.rejectionStands = true → session.status ∉ Session.closed →
      (session.prepared config now).ready = false
  | .applySilentBuyerDefault => session.rejectionStands = true →
      session.silenceOver now = true → session.chainOk = true →
      ((session.silenced now).prepared config now).ready = false
  | _ => True

def RespectsAll (config : Config) (now : Int) (session : Session) : List Operation → Prop
  | [] => True
  | operation :: rest => operation.Respects config now session ∧
      RespectsAll config now (operation.apply config now session) rest

/-- The gate is asked for tasks that have a session, and where the newest is not the first one,
it is verified already or the first one is not about to be. -/
def Unambiguous (config : Config) (world : World) : Action → Prop
  | .requireVerifiedForSettle now taskId sceneId allow =>
      (world.getVerificationForTask taskId = none → allow = true →
        (config.scenePolicy (if orEmpty sceneId = "" then "api_tool_call"
          else orEmpty sceneId)).mode.digital = false) ∧
      ∀ first newest, world.getVerificationForTask taskId = some first →
        world.newest taskId = some newest →
        first.1 = newest.1 ∨ newest.2.status = .verified ∨
          first.2.status ≠ .verified ∧ (first.2.prepared config now).ready = false ∧
            (first.2.silenceOver now && first.2.chainOk) = false
  | _ => True

/-- The requests under which rejections stand. -/
def Respects (config : Config) (world : World) (action : Action) : Prop :=
  (∀ verificationId session, world.sessions.get verificationId = some session →
    RespectsAll config action.now session (operations world verificationId action)) ∧
  Unambiguous config world action

section Proofs

variable {config : Config} {now : Int} {session after : Session} {operation : Operation}

theorem rejectionStands_of_append {extra : List Event}
    (appended : after.events = session.events ++ extra)
    (undecided : ∀ event ∈ extra, event.kind ∉ decisions) :
    after.rejectionStands = session.rejectionStands := by
  have none : (extra.map (·.kind)).filter (· ∈ decisions) = [] := by
    refine List.filter_eq_nil_iff.mpr fun kind member => ?_
    obtain ⟨event, inside, rfl⟩ := List.mem_map.mp member
    simpa using undecided event inside
  simp [Session.rejectionStands, appended, none]

theorem rejectionStands_of_confirmed {extra : List Event} {event : Event}
    (appended : after.events = session.events ++ event :: extra)
    (confirms : event.kind = .buyerConfirmed)
    (undecided : ∀ event ∈ extra, event.kind ∉ decisions) : after.rejectionStands = false := by
  have none : (extra.map (·.kind)).filter (· ∈ decisions) = [] := by
    refine List.filter_eq_nil_iff.mpr fun kind member => ?_
    obtain ⟨event, inside, rfl⟩ := List.mem_map.mp member
    simpa using undecided event inside
  have confirmed : EventKind.buyerConfirmed ∈ decisions := List.mem_cons_self
  simp [Session.rejectionStands, appended, none, confirms, confirmed]

theorem Derived.rejectionStands (derived : Derived session after) :
    after.rejectionStands = session.rejectionStands := by
  obtain ⟨extra, appended, kinds⟩ := derived.events
  refine rejectionStands_of_append appended fun event member => ?_
  have kind := (kinds event member).1
  simp only [List.mem_cons, List.not_mem_nil, or_false] at kind
  rcases kind with is | is <;> simp [is, decisions]

/-- A session that is not ready is not verified by `try_verify`. -/
theorem tryVerify_unready (unready : (session.prepared config now).ready = false)
    (unverified : session.status ≠ .verified) :
    (session.tryVerify config now).status ≠ .verified := by
  rcases Session.tryVerify_cases config now session with ⟨-, same⟩ | ⟨-, -, same⟩ | ⟨-, ready, -⟩
  · rwa [same]
  · rwa [same, Session.prepared_status]
  · simp [ready] at unready

theorem tryVerify_upheld (unready : session.rejectionStands = true →
      session.status ∉ Session.closed → (session.prepared config now).ready = false)
    (upheld : session.Upheld) : (session.tryVerify config now).Upheld := by
  intro stands
  rw [(tryVerify_derived config now session).rejectionStands] at stands
  by_cases done : session.status ∈ Session.closed
  · have same : session.tryVerify config now = session := by simp [Session.tryVerify, done]
    rw [same]
    exact upheld stands
  · exact tryVerify_unready (unready stands done) (upheld stands)

theorem Effect.upheld (effect : Effect config now session operation after)
    (respects : operation.Respects config now session) (upheld : session.Upheld) :
    after.Upheld := by
  cases effect with
  | none => exact upheld
  | challenged => exact upheld
  | proved request =>
      intro stands
      refine upheld (stands ▸ (rejectionStands_of_append rfl ?_).symm)
      simp [decisions]
  | shipped | takenIn | refused | rejected | issued | handedOver =>
      intro _
      simp [Session.delivered]
  | receipt ok =>
      cases ok with
      | false => exact upheld
      | true =>
          intro stands
          refine upheld (stands ▸ (rejectionStands_of_append rfl ?_).symm)
          simp [decisions]
  | tried => exact tryVerify_upheld respects upheld
  | confirmed =>
      obtain ⟨extra, appended, kinds⟩ := (tryVerify_derived config now (session.confirmed now)).events
      have confirmed : ((session.confirmed now).tryVerify config now).rejectionStands = false := by
        rw [(tryVerify_derived config now _).rejectionStands]
        exact rejectionStands_of_confirmed rfl rfl (by simp)
      intro stands
      simp [confirmed] at stands
  | silenced late complete =>
      have silent : (session.silenced now).rejectionStands = session.rejectionStands :=
        rejectionStands_of_append rfl (by simp [decisions])
      refine tryVerify_upheld (fun stands _ => ?_) fun _ => by simp
      exact respects (silent ▸ stands) late complete

/-- A refused item is a physical one. -/
def Session.RefusedPhysical (session : Session) : Prop :=
  session.status = .wrongItem → session.mode.physical = true

theorem Effect.refusedPhysical (effect : Effect config now session operation after)
    (physical : session.RefusedPhysical) : after.RefusedPhysical := by
  have deal := effect.sameDeal
  intro wrongItem
  rw [deal.mode]
  cases effect with
  | none => exact physical wrongItem
  | challenged => exact physical wrongItem
  | proved => exact physical wrongItem
  | shipped _ _ is | takenIn _ is | refused _ is => exact is
  | issued => simp [Session.delivered] at wrongItem
  | handedOver _ _ is => exact is
  | receipt ok =>
      refine physical ?_
      cases ok <;> exact wrongItem
  | tried =>
      rcases Session.tryVerify_status config now session with same | verified
      · exact physical (same ▸ wrongItem)
      · simp [verified] at wrongItem
  | confirmed =>
      rcases Session.tryVerify_status config now (session.confirmed now) with same | verified
      · simp [same] at wrongItem
      · simp [verified] at wrongItem
  | rejected => simp at wrongItem
  | silenced =>
      rcases Session.tryVerify_status config now (session.silenced now) with same | verified
      · simp [same] at wrongItem
      · simp [verified] at wrongItem

/-- The statuses that should be final. -/
def final : List SessionStatus := [.verified, .wrongItem]

/-- A verified or refused delivery stays so. -/
theorem Effect.final (effect : Effect config now session operation after)
    (respects : operation.Respects config now session) (physical : session.RefusedPhysical)
    (done : session.status ∈ final) : after.status = session.status := by
  simp only [Delivery.final, List.mem_cons, List.not_mem_nil, or_false] at done
  cases effect with
  | none | challenged | proved => rfl
  | shipped _ _ _ waiting => rcases done with is | is <;> simp [is] at waiting
  | issued _ _ _ paperless =>
      rcases done with verified | wrongItem
      · exact absurd verified (respects rfl paperless)
      · simp [physical wrongItem] at paperless
  | takenIn _ _ _ waiting | refused _ _ _ waiting =>
      rcases done with is | is <;> simp [is] at waiting
  | handedOver _ _ _ _ underway => rcases done with is | is <;> simp [is] at underway
  | receipt ok => cases ok <;> rfl
  | tried => rcases done with is | is <;> simp [Session.tryVerify, is, Session.closed]
  | confirmed undecided | rejected undecided =>
      rcases done with is | is <;> simp [is] at undecided
  | silenced late =>
      simp only [Session.silenceOver, Bool.and_eq_true, decide_eq_true_eq] at late
      rcases done with is | is <;> simp [is] at late

/-- What respectful operations preserve, a respectful list of them does. -/
theorem RespectsAll.kept (property : Session → Prop) {operations : List Operation}
    (kept : ∀ (session : Session) (operation : Operation), operation.Respects config now session →
      property session → property (operation.apply config now session))
    (respects : RespectsAll config now session operations) (holds : property session) :
    property (operations.foldl (Operation.apply config now) session) := by
  induction operations generalizing session with
  | nil => exact holds
  | cons operation rest ih => exact ih respects.2 (kept session operation respects.1 holds)

variable {world : World} {action : Action} {verificationId : VerificationId}

/-- In the runs of respectful requests a standing rejection keeps a session unverified. -/
theorem upheld_of_reachable
    (reachable : ((system config).restrict (Respects config)).Reachable world)
    (there : world.sessions.get verificationId = some session) :
    session.Upheld ∧ session.RefusedPhysical := by
  refine ⟨session_invariant ?_ ?_ reachable there, session_invariant ?_ ?_ reachable there⟩
  · intro session fresh
    simp [Session.Upheld, Session.rejectionStands, fresh.events]
  · intro world verificationId session action respects there upheld
    exact (respects.1 verificationId session there).kept Session.Upheld
      (fun _ _ respects upheld => (apply_effect _).upheld respects upheld) upheld
  · intro session fresh wrongItem
    have status := fresh.status
    simp [wrongItem] at status
  · intro world verificationId session action respects there physical
    exact (respects.1 verificationId session there).kept Session.RefusedPhysical
      (fun _ _ _ physical => (apply_effect _).refusedPhysical physical) physical

/-- In such a run a final status stays. -/
theorem final_stays {start : World} {actions : List Action} {earlier : Session}
    (run : ((system config).restrict (Respects config)).Run start actions world)
    (before : start.sessions.get verificationId = some earlier)
    (physical : earlier.RefusedPhysical) (done : earlier.status ∈ final) :
    ∃ session, world.sessions.get verificationId = some session ∧
      session.status = earlier.status ∧ session.RefusedPhysical := by
  induction run with
  | nil => exact ⟨earlier, before, rfl, physical⟩
  | snoc _ step ih =>
      obtain ⟨session, there, same, physical⟩ := ih
      refine ⟨_, get_step step.1 there, ?_⟩
      refine (step.2.1 verificationId session there).kept
        (fun session => session.status = earlier.status ∧ session.RefusedPhysical) ?_ ⟨same, physical⟩
      rintro session operation respects ⟨same, physical⟩
      exact ⟨((apply_effect operation).final respects physical (same ▸ done)).trans same,
        (apply_effect operation).refusedPhysical physical⟩

/-- A gate that is not ambiguous opens for tasks whose newest session is verified. -/
theorem newest_verified {taskId : TaskId} {sceneId : Option SceneId} {allow : Bool}
    (unambiguous : Unambiguous config world (.requireVerifiedForSettle now taskId sceneId allow))
    (opens : (requireVerifiedForSettle config world now taskId sceneId allow).2 = .ok ()) :
    ∃ row, (requireVerifiedForSettle config world now taskId sceneId allow).1.newest taskId =
      some row ∧ row.2.status = .verified := by
  cases found : world.getVerificationForTask taskId with
  | none =>
      simp only [requireVerifiedForSettle, sweep_first, found, Option.map_none] at opens
      by_cases digital : (allow && (config.scenePolicy (if orEmpty sceneId = "" then "api_tool_call"
          else orEmpty sceneId)).mode.digital) = true
      · rw [Bool.and_eq_true] at digital
        simp [unambiguous.1 found digital.1] at digital
      · simp [digital] at opens
  | some first =>
      have verified := verified_of_gate found opens
      have about : first.2.taskId = taskId := by
        unfold World.getVerificationForTask at found
        simpa using List.find?_some found
      have inside : first ∈ world.sessions.rows := List.mem_of_find?_eq_some found
      obtain ⟨newest, last⟩ : ∃ newest, world.newest taskId = some newest := by
        rw [← Option.isSome_iff_exists, World.newest, List.find?_isSome]
        exact ⟨first, List.mem_reverse.mpr inside, decide_eq_true about⟩
      refine ⟨_, (newest_map taskId requireVerifiedForSettle_sessions fun _ _ =>
        (foldl_sameDeal _).taskId).trans (congrArg _ last), ?_⟩
      simp only [foldl_gate, found, Option.any_some, decide_eq_true_eq]
      rcases unambiguous.2 first newest found last with same | already | ⟨unverified, unready, waits⟩
      · have recorded : newest ∈ world.sessions.rows :=
          List.mem_reverse.mp (List.mem_of_find?_eq_some last)
        have one : first = newest := by
          refine Prod.ext same (Option.some.inj ?_)
          rw [← OrderedTable.mem_rows_iff.mp inside, ← OrderedTable.mem_rows_iff.mp recorded, same]
        rw [if_pos same, ← one]
        exact verified
      · have kept : sweepSession config now world 50 newest.1 newest.2 = newest.2 := by
          simp [sweepSession, Session.applySilentBuyerDefault, Session.silenceOver, already]
        rw [kept, tryVerify_of_verified already, ite_self]
        exact already
      · have kept : sweepSession config now world 50 first.1 first.2 = first.2 := by
          simp [sweepSession, Session.applySilentBuyerDefault, waits]
        rw [kept] at verified
        exact absurd verified (tryVerify_unready unready unverified)

/-- In the runs of respectful requests a rejected session is not verified before the buyer
confirms, a verified or refused one stays so, and the gate opens only for tasks whose newest session
is verified. -/
theorem rejections_stand {actions : List Action}
    (run : ((system config).restrict (Respects config)).Run {} actions world) :
    (∀ verificationId session, world.sessions.get verificationId = some session →
      session.rejectionStands = true → session.status ≠ .verified) ∧
    (∀ before after middle verificationId earlier, actions = before ++ after →
      ((system config).restrict (Respects config)).Run {} before middle →
      ((system config).restrict (Respects config)).Run middle after world →
      middle.sessions.get verificationId = some earlier → earlier.status ∈ final →
      ∃ session, world.sessions.get verificationId = some session ∧
        session.status = earlier.status) ∧
    ∀ now taskId sceneId allow,
      Respects config world (.requireVerifiedForSettle now taskId sceneId allow) →
      (requireVerifiedForSettle config world now taskId sceneId allow).2 = .ok () →
      ∃ row, (requireVerifiedForSettle config world now taskId sceneId allow).1.newest taskId =
        some row ∧ row.2.status = .verified := by
  refine ⟨?_, ?_, ?_⟩
  · intro verificationId session there
    exact (upheld_of_reachable ⟨{}, actions, rfl, run⟩ there).1
  · intro before after middle verificationId earlier _ first later here done
    have physical := (upheld_of_reachable ⟨{}, before, rfl, first⟩ here).2
    obtain ⟨session, there, same, -⟩ := final_stays later here physical done
    exact ⟨session, there, same⟩
  · intro now taskId sceneId allow respects opens
    exact newest_verified respects.2 opens

end Proofs

namespace Demo

/-- A scene in which goods are received and checked. -/
def config : Config where
  scenes sceneId := if sceneId = "b2b_procurement" then some {
      mode := .physicalTriple
      requiredEvents := ["seller_shipped", "logistics_intake_ok", "logistics_delivered",
        "proof:goods_receipt", "proof:qa_or_quantity"]
      buyerSilentConfirmSeconds := some 7200 }
    else none
  requiredProofFields _ := []
  hmac material := material
  printTime _ := "t"

abbrev Scene := Library.Scene (perform config) {}

theorem Scene.run (scene : Scene) : (system config).Run {} scene.actions scene.world :=
  Library.Scene.run (fun _ _ _ performed => performed) scene

def photo : Session.ProofRequest where
  proofType := "delivery_photo_tagged"
  contentHash := "0123456789abcdef"
  actorAgentId := "l"
  partyRole := "logistics"
  nonce := some "n"
  capturedAt := some "t"
  tagHmac := some "d|t|logistics|n|t|"

def created : Scene where
  actions := [.create "d" "t" "b2b_procurement" "s" "b" (some "l") none]
  possible := by decide +kernel

def shipped : Scene :=
  created.next (.operate 1000000 "d" (.sellerShip "s" none)) (by decide +kernel)

/-- The goods are taken over and delivered. -/
def delivery : List Action :=
  [.operate 2000000 "d" (.logisticsIntake "l" true),
    .operate 3000000 "d" (.issueCaptureChallenge "c" "n" "logistics" none),
    .operate 4000000 "d" (.logisticsDeliver photo)]

/-- The buyer confirms before the papers are there, and then rejects. -/
def rejected : Scene where
  actions := shipped.actions ++ (delivery ++ [.operate 5000000 "d" (.buyerConfirm "b" true),
    .operate 6000000 "d" (.buyerConfirm "b" false)])
  possible := by decide +kernel

/-- The seller hands in the papers and asks for the verification. -/
def overruled : Scene where
  actions := rejected.actions ++ [
    .operate 7000000 "d" (.submitProof
      { photo with proofType := "goods_receipt", actorAgentId := "s", partyRole := "seller" }),
    .operate 8000000 "d" (.submitProof
      { photo with proofType := "qa_report_hash", actorAgentId := "s", partyRole := "seller" }),
    .operate 9000000 "d" .tryVerify]
  possible := by decide +kernel

def session (scene : Scene) : Option Session := scene.world.sessions.get "d"

end Demo

/-- A rejected session is verified without a word of the buyer. -/
theorem verified_after_rejection :
    (system Demo.config).Run {} Demo.rejected.actions Demo.rejected.world ∧
    (Demo.session Demo.rejected).map (·.status) = some .rejected ∧
    (system Demo.config).Run {} Demo.overruled.actions Demo.overruled.world ∧
    (Demo.session Demo.overruled).map (·.rejectionStands) = some true ∧
    (Demo.session Demo.overruled).map (·.status) = some .verified :=
  ⟨Demo.rejected.run, by decide +kernel, Demo.overruled.run, by decide +kernel, by decide +kernel⟩

namespace Demo

def rejectedSession : Session := (session rejected).get (by decide +kernel)

theorem rejected_sessions : rejected.world.sessions.get "d" = some rejectedSession :=
  (Option.some_get _).symm

/-- Nothing disrespects a rejection up to there. -/
theorem rejected_respects :
    ((system config).restrict (Respects config)).Run {} rejected.actions rejected.world := by
  have deterministic : ∀ state action next other, (system config).Step state action next →
      (system config).Step state action other → next = other :=
    fun _ _ _ _ step again => Option.some.inj (step.symm.trans again)
  have creation : ((system config).restrict (Respects config)).Run {} created.actions
      created.world := by
    refine created.run.restrict fun action member state => ?_
    obtain rfl := List.mem_singleton.mp member
    exact ⟨fun _ _ _ => trivial, trivial⟩
  have shipment : ((system config).restrict (Respects config)).Run {} shipped.actions
      shipped.world := by
    refine creation.snoc ⟨created.performed _ _, fun verificationId session there => ?_, trivial⟩
    simp only [operations]
    split
    case isTrue same =>
      subst same
      have physical : (created.world.sessions.get "d").map (·.mode.physical) = some true := by
        decide +kernel
      rw [there, Option.map_some, Option.some.injEq] at physical
      exact ⟨fun _ paperless => by simp [physical] at paperless, trivial⟩
    case isFalse => trivial
  obtain ⟨middle, first, second⟩ := rejected.run.split
  obtain rfl := first.unique deterministic shipped.run
  refine shipment.append (second.restrict fun action member state => ?_)
  simp only [delivery, List.cons_append, List.nil_append, List.mem_cons, List.not_mem_nil,
    or_false] at member
  refine ⟨fun verificationId session _ => ?_, ?_⟩
  · rcases member with rfl | rfl | rfl | rfl | rfl <;> simp only [operations] <;> split <;>
      trivial
  · rcases member with rfl | rfl | rfl | rfl | rfl <;> trivial

end Demo

theorem rejections_stand_rejected : Demo.rejectedSession.status ≠ .verified :=
  (rejections_stand Demo.rejected_respects).1 "d" Demo.rejectedSession Demo.rejected_sessions
    (by decide +kernel)

end TrustChain.Delivery
