import TrustChain.Service.Recorded
import TrustChain.TradeLaunch.Lawful

/-!
# The audits of a launch

A launch moves its settlement on three times, and each attempt is audited in the transaction of
the launch. They are stored with the order, or undone with it.
-/

namespace TrustChain.TradeLaunch

open Library Service

section Attempts

variable (settings : Settings) (world : World) (held : Held)

/-- `lockState`, with its audits. -/
def tracedLock (state : SettlementState) (now : ℚ) : Logged TransitionAudit HttpError Db := do
  let request : Request := { now, config := settings.config }
  let db := held.view world.db
  Logged.lift (assertLockDoesNotClosePaymentCycle request db held.order.taskId
    held.order.buyerIdentityId held.order.sellerIdentityId)
  let pending ← if state.status = .draft then attempt request db state .pending else pure db
  let state := if state.status = .draft then state.moveTo .pending now else state
  attempt request pending
    { state with workerAgentId := some held.order.sellerIdentityId } .accepted

/-- The transition of `startState`, with its audit. -/
def tracedStart (state : SettlementState) (now : ℚ) : Logged TransitionAudit HttpError Db :=
  if state.status = .accepted then attempt { now } (held.view world.db) state .inProgress
  else pure (held.view world.db)

/-- The audits of the next part of the pipeline. -/
def Held.attempts (now : ℚ) : List TransitionAudit :=
  match held.order.status, held.settlement with
  | .settlementCreated, some row => (tracedLock settings world held row.fromRow now).log
  | .handoffConfirmed, some row => (tracedStart world held row.fromRow now).log
  | _, _ => []

end Attempts

/-- The tables and the requests, with the audits that have been written. -/
structure Trail where
  world : World
  /-- What each transaction has audited. -/
  flushed : RequestNo → List TransitionAudit := fun _ => []
  /-- The audits that are stored. -/
  audits : List TransitionAudit

namespace Trail

variable (platform : Platform) (settings : Settings) (trail : Trail)

/-- The audits of a step of a request. -/
def attempts (request : RequestNo) (now : ℚ) : List TransitionAudit :=
  match trail.world.requests.get request with
  | some (.running held) => held.attempts settings trail.world now
  | _ => []

/-- The trail after a step to another world. -/
def follow (world : World) : Action → Trail
  | .advance request _ _ now =>
      { trail with
        world
        flushed := Function.update trail.flushed request
          (trail.flushed request ++ trail.attempts settings request now) }
  | .commit request => { trail with world, audits := trail.audits ++ trail.flushed request }
  | _ => { trail with world }

def perform (trail : Trail) (action : Action) : Option Trail :=
  (TradeLaunch.perform platform settings trail.world action).map fun world =>
    trail.follow settings world action

/-- The audits of the requests before are there, and no launch has begun. -/
def system : TransitionSystem Trail Action where
  Init trail := ∃ world, (TradeLaunch.system platform settings).Init world ∧
    trail = { world, audits := world.db.audits }
  Step trail action next := trail.perform platform settings action = some next

/-- The transaction of a request has audited a refused transition. -/
def Refuses (request : RequestNo) : Prop := ∃ audit ∈ trail.flushed request, audit.Refused

/-- A voucher has expired that the seller's automation accepts. -/
def FindsExpired (action : Action) (voucherId : VoucherId) : Prop :=
  ∃ request fresh nonce now held row, action = .advance request fresh nonce now ∧
    trail.world.requests.get request = some (.running held) ∧
    held.order.status = .voucherCreated ∧ held.voucher = some (voucherId, row) ∧
    (evaluateSellerPreauth (trail.world.policies held.order.sellerIdentityId)
      (trail.world.policies row.buyerIdentityId) row held.order.decomposedSpec now).accept = true ∧
    row.status = .created ∧ row.expiryTime ≤ now

/-- A launch that ends leaves one audit for each attempt, only one that has no transition refused
writes its rows, and a voucher that is found expired is stored so. -/
structure Recorded (action : Action) (next : Trail) : Prop where
  audited : ∀ request, action = .commit request ∨ action = .rollBack request →
    next.audits = trail.audits ++ trail.flushed request
  undone : next.world.db = trail.world.db ∨
    ∃ request, action = .commit request ∧ ¬trail.Refuses request
  expired : ∀ voucherId, trail.FindsExpired action voucherId →
    ∃ stored, next.world.db.vouchers.get voucherId = some stored ∧ stored.status = .expired

/-- No launch is undone after its first transition. -/
def Keeps (action : Action) : Prop :=
  ∀ request, action = .rollBack request → trail.flushed request = []

end Trail

section Runs

variable {platform : Platform} {settings : Settings} {world after : World} {held : Held}
  {state : SettlementState} {now : ℚ} {trail next : Trail} {action : Action} {request : RequestNo}

/-! ## The parts of the pipeline -/

theorem tracedLock_outcome : (tracedLock settings world held state now).outcome =
    lockState settings world held state now := by
  by_cases draft : state.status = .draft
  · simp [tracedLock, lockState, draft]
  · simp [tracedLock, lockState, draft]

theorem tracedLock_stops :
    Logged.Stops TransitionAudit.Refused (tracedLock settings world held state now) := by
  apply Logged.stops_lift.bind
  intro _
  dsimp only
  split
  · apply attempt_stops.bind
    intro pending
    exact attempt_stops
  · exact attempt_stops

theorem tracedStart_stops :
    Logged.Stops TransitionAudit.Refused (tracedStart world held state now) := by
  unfold tracedStart
  split
  · exact attempt_stops
  · exact Logged.stops_lift

/-- A part of the pipeline that has a transition refused raises. -/
theorem failing_of_refused {voucherId : VoucherId} {nonce : String} {stage : Stage}
    {audit : TransitionAudit} (part : advance settings world held voucherId nonce now = some stage)
    (member : audit ∈ held.attempts settings world now) (refused : audit.Refused) :
    stage = .failing held.abort := by
  unfold Held.attempts at member
  split at member
  case h_1 row status settled =>
    obtain ⟨error, raises⟩ := tracedLock_stops audit member refused
    rw [tracedLock_outcome] at raises
    simp only [advance, status, settled, lockSettlement, raises, Option.some.injEq] at part
    exact part.symm
  case h_2 row status settled =>
    obtain ⟨error, raises⟩ := tracedStart_stops audit member refused
    unfold tracedStart at raises
    split at raises
    case isTrue accepted =>
      rw [attempt_outcome] at raises
      simp only [advance, status, settled, startState, accepted, if_true, raises,
        Option.some.injEq] at part
      exact part.symm
    case isFalse => cases raises
  case h_3 => cases member

/-- The seller's automation accepts no voucher that has expired. -/
theorem not_findsExpired {voucherId : VoucherId} : ¬trail.FindsExpired action voucherId := by
  rintro ⟨_, _, _, now, held, row, -, -, -, -, accepts, -, expired⟩
  unfold evaluateSellerPreauth at accepts
  simp only [expired, if_true] at accepts
  split at accepts
  · cases accepts
  · split_ifs at accepts

/-! ## Steps -/

/-- Only a commit writes rows. -/
theorem perform_db (taken : TradeLaunch.perform platform settings world action = some after) :
    after.db = world.db ∨ ∃ request held, action = .commit request ∧
      world.requests.get request = some (.answered held) := by
  cases (perform_effect taken).1 with
  | moved => exact .inl rfl
  | replayed => exact .inl rfl
  | committed here => exact .inr ⟨_, _, rfl, here⟩

namespace Trail

@[simp] theorem follow_world : (trail.follow settings after action).world = after := by
  cases action with
  | _ => rfl

/-- A request that has had a transition refused can only be undone. -/
def Sound (trail : Trail) : Prop :=
  ∀ request, trail.Refuses request →
    ∃ stage, trail.world.requests.get request = some stage ∧ stage.Over

theorem Sound.going (sound : trail.Sound)
    (going : ∀ before, trail.world.requests.get request = some before → ¬before.Over) :
    ¬trail.Refuses request := by
  intro refuses
  obtain ⟨stage, here, past⟩ := sound request refuses
  exact going stage here past

/-- A step that audits nothing. -/
theorem Sound.move (sound : trail.Sound)
    (taken : TradeLaunch.perform platform settings trail.world action = some after)
    (world : next.world = after) (flushed : next.flushed = trail.flushed) : next.Sound := by
  obtain ⟨stage, moved, past⟩ := (perform_effect taken).2
  intro request refuses
  rw [Refuses, flushed] at refuses
  rw [world, moved]
  by_cases acts : request = action.request
  · subst acts
    rcases past with past | going
    · exact ⟨stage, Table.get_set_self _ _ _, past⟩
    · exact absurd refuses (sound.going going)
  · rw [Table.get_set_of_ne acts]
    exact sound request refuses

theorem Sound.advance {voucherId : VoucherId} {nonce : String} (sound : trail.Sound)
    (taken : TradeLaunch.perform platform settings trail.world
      (.advance request voucherId nonce now) = some after) :
    (trail.follow settings after (.advance request voucherId nonce now)).Sound := by
  simp only [TradeLaunch.perform] at taken
  split at taken
  case h_1 held here =>
    split at taken
    case h_1 stage part =>
      obtain ⟨-, rfl⟩ := write_eq_some taken
      intro other refuses
      simp only [Refuses, follow] at refuses ⊢
      by_cases acts : other = request
      · subst acts
        rw [Function.update_self] at refuses
        obtain ⟨audit, member, refused⟩ := refuses
        rcases List.mem_append.1 member with earlier | now
        · exact absurd ⟨audit, earlier, refused⟩ (sound.going (not_over here id))
        · simp only [attempts, here] at now
          rw [failing_of_refused part now refused]
          exact ⟨_, Table.get_set_self _ _ _, trivial⟩
      · rw [Function.update_of_ne acts] at refuses
        rw [World.suspend, Table.get_set_of_ne acts]
        exact sound other refuses
    case h_2 => cases taken
  case h_2 => cases taken

theorem Sound.step (sound : trail.Sound)
    (taken : trail.perform platform settings action = some next) : next.Sound := by
  obtain ⟨after, moved, rfl⟩ := Option.map_eq_some_iff.1 taken
  cases action with
  | advance => exact sound.advance moved
  | _ => exact sound.move moved rfl rfl

theorem sound_of_reachable (reachable : (system platform settings).Reachable trail) :
    trail.Sound := by
  refine reachable.invariant ?_ ?_
  · rintro trail ⟨_, -, rfl⟩ request ⟨_, member, -⟩
    cases member
  · intro trail action next _ sound taken
    exact sound.step taken

/-- A step leaves the record exactly if it does not undo a transaction with audits. -/
theorem keeps_iff (sound : trail.Sound)
    (taken : trail.perform platform settings action = some next) :
    trail.Keeps action ↔ trail.Recorded action next := by
  obtain ⟨after, moved, rfl⟩ := Option.map_eq_some_iff.1 taken
  constructor
  · intro keeps
    refine ⟨?_, ?_, fun _ found => absurd found not_findsExpired⟩
    · rintro request (rfl | rfl)
      · rfl
      · rw [keeps request rfl, List.append_nil]
        rfl
    · rcases perform_db moved with same | ⟨request, held, rfl, here⟩
      · exact .inl (by rw [follow_world, same])
      · exact .inr ⟨request, rfl, sound.going (not_over here id)⟩
  · rintro recorded request rfl
    exact List.self_eq_append_right.1 (recorded.audited request (.inr rfl))

theorem unique (trail : Trail) (action : Action) (next other : Trail)
    (taken : (system platform settings).Step trail action next)
    (again : (system platform settings).Step trail action other) : next = other :=
  Option.some.inj (taken.symm.trans again)

end Trail

/-- A request of the service leaves a record of what it attempts exactly if nothing is refused from
its first transition on, and it finds no voucher expired. The launches of a run leave a record
exactly if none is undone after its first transition. -/
theorem requests_recorded (platform : Platform) (settings : Settings) :
    (∀ request db call, Service.Recorded request db call ↔ Unhindered request db call) ∧
      ∀ start actions finish, (Trail.system platform settings).Init start →
        (Trail.system platform settings).Run start actions finish →
          (((Trail.system platform settings).restrict Trail.Keeps).Run start actions finish ↔
            ¬(Trail.system platform settings).Takes start actions finish
              fun trail action next => ¬trail.Recorded action next) := by
  constructor
  · intro request db call
    exact recorded_iff
  · intro start actions finish initial run
    apply TransitionSystem.Takes.restrict_iff_not Trail.unique ?_ (.init initial) run
    intro trail action next reachable taken
    rw [not_not]
    exact Trail.keeps_iff (Trail.sound_of_reachable reachable) taken

end Runs

namespace Demo

/-- The tables of a trail, with credits for the buyer and no audits yet. -/
def trail (credits : ℚ) : Trail := { world := start credits, audits := [] }

theorem trail_initial (credits : ℚ) : (Trail.system platform settings).Init (trail credits) :=
  ⟨_, start_initial credits, rfl⟩

/-- A launch that is stored. -/
def stored : Scene (Trail.perform platform settings) (trail 100) where
  actions := ask 1 none ++ pursue 1 8 ++ [.commit 1]
  possible := by decide +kernel

/-- A launch that fails once its settlement is locked. -/
def undone : Scene (Trail.perform platform settings) (trail 100) where
  actions := ask 1 none ++ pursue 1 6 ++ [.raise 1 .http]
  possible := by decide +kernel

/-- A pending settlement, and a voucher that expires at once. -/
def tables : Db where
  settlements := Table.empty.set "t"
    { taskId := "t", escrowAmount := 1, clientAgentId := "b", status := .pending, updatedAt := 0 }
  vouchers := Table.empty.set "v"
    { buyerIdentityId := "b", sellerIdentityId := "s", amount := 1, billCreditAmount := 1
      expiryTime := 0, nonce := "n" }

theorem stored_kept : ((Trail.system platform settings).restrict Trail.Keeps).Run (trail 100)
    stored.actions stored.world := by
  apply (stored.run fun _ _ _ => id).restrict
  intro action member trail request undoes
  subst undoes
  exact absurd member (by simp [stored, ask, pursue])

end Demo

theorem requests_recorded_stored : Demo.stored.world.audits.length = 3 ∧
    ¬(Trail.system Demo.platform Demo.settings).Takes (Demo.trail 100) Demo.stored.actions
      Demo.stored.world fun trail action next => ¬trail.Recorded action next := by
  have recorded := (requests_recorded Demo.platform Demo.settings).2 (Demo.trail 100)
    Demo.stored.actions Demo.stored.world (Demo.trail_initial 100) Demo.stored_kept.of_restrict
  exact ⟨by decide +kernel, recorded.1 Demo.stored_kept⟩

/-- A refused transition leaves no audit, a voucher that has expired stays as it was, and a launch
that fails once its settlement is locked takes its audits along. -/
theorem not_requests_recorded :
    ((traced { now := 1 } Demo.tables (.markSettlementPending "t")).log =
        [⟨"t", some .pending, .pending, false⟩] ∧
      ¬Service.Recorded { now := 1 } Demo.tables (.markSettlementPending "t")) ∧
    ¬Service.Recorded { now := 1 } Demo.tables (.acceptPaymentCode "v" "s") ∧
    ∃ next, (Trail.system Demo.platform Demo.settings).Takes (Demo.trail 100)
      (Demo.undone.actions ++ [.rollBack 1]) next fun trail action next =>
        ¬trail.Recorded action next := by
  refine ⟨⟨by decide +kernel, ?_⟩, ?_, ?_⟩
  · intro recorded
    have lost : (handled { now := 1 } Demo.tables (.markSettlementPending "t")).audits = [] := by
      decide +kernel
    have audited := recorded.audited rfl
    rw [lost] at audited
    exact absurd audited (by decide +kernel)
  · intro recorded
    have unmarked : ∀ stored ∈ (handled { now := 1 } Demo.tables
        (.acceptPaymentCode "v" "s")).vouchers.get "v", stored.status ≠ .expired := by
      decide +kernel
    obtain ⟨stored, there, marked⟩ := recorded.expired "v" _ rfl rfl rfl (by decide)
    exact unmarked stored there marked
  · have taken := Demo.undone.performed (.rollBack 1) (by decide +kernel)
    refine ⟨_, .last (Demo.undone.run fun _ _ _ => id) taken ?_⟩
    intro recorded
    have audited : Demo.undone.world.flushed 1 ≠ [] := by decide +kernel
    have reachable : (Trail.system Demo.platform Demo.settings).Reachable Demo.undone.world :=
      ⟨_, _, Demo.trail_initial 100, Demo.undone.run fun _ _ _ => id⟩
    exact audited ((Trail.keeps_iff (Trail.sound_of_reachable reachable) taken).2 recorded 1 rfl)

end TrustChain.TradeLaunch
