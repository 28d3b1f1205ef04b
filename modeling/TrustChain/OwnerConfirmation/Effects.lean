import TrustChain.OwnerConfirmation.System

/-!
# What a request does to the sessions

A request looks at some sessions, opens one, or moves the status of one; a release that needs a
session uses it up in the same moment.
-/

namespace TrustChain.OwnerConfirmation

open Library
open Delivery (SceneId AgentId TaskId iso after orEmpty)

/-- A scene whose release needs a Yes of the owner. -/
def Config.needsYes (config : Config) (sceneId : SceneId) : Bool :=
  config.settleGated sceneId &&
    (config.resolveGate sceneId "buyer" "buyer_accept_settle" false).toOption.any (·.needsOwner)

/-- A call fits the terms of a session. -/
structure ConfirmationSession.Authorises (session : ConfirmationSession) (time : Int) (call : Call) :
    Prop where
  scene : session.sceneId = call.sceneId
  role : session.role = call.role.toLower
  step : session.step = call.step
  owner : orEmpty call.expectedOwnerAgentId = "" ∨
    session.ownerAgentId = orEmpty call.expectedOwnerAgentId
  interaction : orEmpty call.expectedInteractionRef = "" ∨ orEmpty session.interactionRef = "" ∨
    orEmpty session.interactionRef = orEmpty call.expectedInteractionRef
  amount : exceeds call.amount session.maxAmount = false
  timely : after time session.deadline = false

/-- The terms of a session, which nothing changes. -/
structure SameTerms (session next : ConfirmationSession) : Prop where
  sceneId : next.sceneId = session.sceneId
  role : next.role = session.role
  step : next.step = session.step
  ownerAgentId : next.ownerAgentId = session.ownerAgentId
  interactionRef : next.interactionRef = session.interactionRef
  maxAmount : next.maxAmount = session.maxAmount
  deadline : next.deadline = session.deadline

/-- A release under a session that a call has used up. -/
structure Call.Backs (call : Call) (release : Release) : Prop where
  scene : call.sceneId = release.sceneId
  role : call.role = "buyer"
  step : call.step = "buyer_accept_settle"
  buyer : call.expectedOwnerAgentId = some release.buyer
  named : release.buyer ≠ ""

inductive Effect (config : Config) (world : World) : World → Prop
  | expired (now : Int) (ids : List SessionId) : Effect config world (world.expire now ids)
  | created (sessionId : SessionId) (session : ConfirmationSession) :
      world.sessions.get sessionId = none → session.status = .pending →
      Effect config world { world with sessions := world.sessions.set sessionId session }
  | decided (now : Int) (sessionId : SessionId) (session : ConfirmationSession) (confirm : Bool)
      (note : Option String) :
      world.sessions.get sessionId = some session → session.status = .pending →
      after now session.deadline = false →
      Effect config world (world.change sessionId (session.decided now confirm note)
        (if confirm then [.confirmed now sessionId session.ownerAgentId] else []))
  | cancelled (now : Int) (sessionId : SessionId) (session : ConfirmationSession)
      (reason : String) :
      world.sessions.get sessionId = some session → session.status ≠ .used →
      Effect config world
        (world.change sessionId ((session.expireIfNeeded now).cancelled now reason) [])
  | used (now : Int) (sessionId : SessionId) (session : ConfirmationSession) (call : Call)
      (releases : List Release) :
      world.sessions.get sessionId = some session → session.status = .confirmed →
      session.Authorises now call → releases.length ≤ 1 →
      (∀ release ∈ releases, release.sessionId = some sessionId ∧ call.Backs release) →
      Effect config world (world.change sessionId (session.used now)
        (.used now sessionId call :: releases.map .released))
  | released (release : Release) :
      config.needsYes release.sceneId = false → release.sessionId = none →
      Effect config world (world.note (.released release))

section Requests

variable {config : Config} {now : Int} {world next : World} {sessionId : SessionId}
  {session : ConfirmationSession}

namespace ConfirmationSession

theorem expireIfNeeded_terms (now : Int) (session : ConfirmationSession) :
    SameTerms session (session.expireIfNeeded now) := by
  unfold expireIfNeeded
  split <;> exact ⟨rfl, rfl, rfl, rfl, rfl, rfl, rfl⟩

/-- A session that is still open has not run out. -/
theorem expireIfNeeded_open
    (isOpen : (session.expireIfNeeded now).status ∈ [.pending, .confirmed]) :
    session.expireIfNeeded now = session ∧ after now session.deadline = false := by
  unfold expireIfNeeded at isOpen ⊢
  split
  case isTrue late =>
    rw [if_pos late] at isOpen
    simp at isOpen
  case isFalse timely =>
    rw [if_neg timely] at isOpen
    exact ⟨rfl, Bool.eq_false_of_not_eq_true fun late => timely ⟨isOpen, late⟩⟩

theorem expireIfNeeded_used : (session.expireIfNeeded now).status = .used ↔
    session.status = .used := by
  unfold expireIfNeeded
  split
  case isTrue late =>
    have different : session.status ≠ .used := by
      intro used
      simp [used] at late
    simp [different]
  case isFalse => rfl

theorem allows_eq_ok {call : Call} :
    session.allows call = .ok () ↔ session.status = .confirmed ∧
      (session.sceneId = call.sceneId ∧ session.step = call.step ∧
        session.role = call.role.toLower) ∧
      (orEmpty call.expectedOwnerAgentId = "" ∨
        session.ownerAgentId = orEmpty call.expectedOwnerAgentId) ∧
      (orEmpty call.expectedInteractionRef = "" ∨ orEmpty session.interactionRef = "" ∨
        orEmpty session.interactionRef = orEmpty call.expectedInteractionRef) ∧
      exceeds call.amount session.maxAmount = false := by
  simp only [allows, require_bind_eq_ok, require_eq_ok]
  constructor
  · rintro ⟨-, rest⟩
    exact rest
  · intro rest
    exact ⟨by simp [rest.1], rest⟩

end ConfirmationSession

/-- Writing back a session that has been looked at is looking at it. -/
theorem change_expired (there : world.sessions.get sessionId = some session) :
    world.change sessionId (session.expireIfNeeded now) [] = world.expire now [sessionId] := by
  unfold World.change World.expire
  congr 1
  · refine OrderedTable.map_congr fun found row here => ?_
    by_cases same : found = sessionId
    · subst same
      obtain rfl := Option.some.inj (there.symm.trans here)
      simp
    · simp [same]
  · exact List.append_nil _

/-- An operation on a session finds none, raises, or changes it. -/
theorem onSession_cases
    (operation : ConfirmationSession → Except PolicyError (ConfirmationSession × List Event)) :
    onSession world now sessionId operation = (world, .error .unknownSession) ∨
    ∃ session, world.sessions.get sessionId = some session ∧
      ((∃ error, onSession world now sessionId operation =
          (world.expire now [sessionId], .error error)) ∨
        ∃ result, operation (session.expireIfNeeded now) = .ok result ∧
          onSession world now sessionId operation =
            (world.change sessionId result.1 result.2, .ok ())) := by
  unfold onSession
  cases there : world.sessions.get sessionId with
  | none => exact .inl rfl
  | some session =>
      refine .inr ⟨session, rfl, ?_⟩
      cases outcome : operation (session.expireIfNeeded now) with
      | error error => exact .inl ⟨error, by simp [outcome, change_expired there]⟩
      | ok result => exact .inr ⟨result, rfl, by simp [outcome]⟩

/-- A call that is allowed by a session fits it. -/
theorem authorises_of_allows {call : Call}
    (allowed : (session.expireIfNeeded now).allows call = .ok ()) :
    session.expireIfNeeded now = session ∧ session.status = .confirmed ∧
      session.Authorises now call := by
  obtain ⟨confirmed, ⟨scene, step, role⟩, owner, interaction, amount⟩ :=
    ConfirmationSession.allows_eq_ok.mp allowed
  obtain ⟨same, timely⟩ := @ConfirmationSession.expireIfNeeded_open now session (by simp [confirmed])
  rw [same] at confirmed scene step role owner interaction amount
  exact ⟨same, confirmed, scene, role, step, owner, interaction, amount, timely⟩

theorem expire_nil : world.expire now [] = world := by
  simp [World.expire]

/-- Whether a gate needs the owner. -/
def Config.gateNeeds (config : Config) (call : Call) : Bool :=
  (config.resolveGate call.sceneId call.role call.step call.policyAutoAllowed).toOption.any
    (·.needsOwner)

/-- What `assert_step_allowed` may do. -/
inductive Asserted (config : Config) (now : Int) (world : World) (call : Call) :
    World × Except PolicyError (Option SessionId) → Prop
  | refused (ids : List SessionId) (error : PolicyError) :
      Asserted config now world call (world.expire now ids, .error error)
  | auto : config.gateNeeds call = false → Asserted config now world call (world, .ok none)
  | kept (ids : List SessionId) : call.consume = false →
      Asserted config now world call (world.expire now ids, .ok none)
  | used (sessionId : SessionId) (session : ConfirmationSession) :
      world.sessions.get sessionId = some session → session.status = .confirmed →
      session.Authorises now call →
      Asserted config now world call
        (world.change sessionId (session.used now) [.used now sessionId call], .ok (some sessionId))

theorem Asserted.raised {call : Call} (error : PolicyError) :
    Asserted config now world call (world, .error error) := by
  have refused : Asserted config now world call (world.expire now [], .error error) := .refused [] error
  rwa [expire_nil] at refused

theorem assertStepAllowed_asserted (config : Config) (now : Int) (world : World) (call : Call) :
    Asserted config now world call (assertStepAllowed config world now call) := by
  unfold assertStepAllowed
  cases gateIs : config.resolveGate call.sceneId call.role call.step call.policyAutoAllowed with
  | error error => exact .raised error
  | ok gate =>
      simp only []
      by_cases needs : gate.needsOwner = true
      · rw [if_pos needs]
        split
        · exact .raised _
        · rcases @onSession_cases now world (orEmpty call.confirmationSessionId) fun session => do
              session.allows call
              if call.consume then
                .ok (session.used now, [.used now (orEmpty call.confirmationSessionId) call])
              else .ok (session, [])
            with unknown | ⟨session, there, ⟨error, raised⟩ | ⟨result, ran, changed⟩⟩
          · rw [unknown]
            exact .raised _
          · rw [raised]
            exact .refused _ error
          · rw [changed]
            obtain ⟨⟨⟩, allowed, ran⟩ := bind_eq_ok.mp ran
            obtain ⟨same, confirmed, authorises⟩ := authorises_of_allows allowed
            by_cases consumes : call.consume = true
            · simp only [consumes, if_true, Except.ok.injEq] at ran
              subst ran
              rw [same]
              simp only [consumes, if_true, Except.map]
              exact .used _ session there confirmed authorises
            · simp only [consumes, Bool.false_eq_true, if_false, Except.ok.injEq] at ran
              subst ran
              simp only [consumes, Bool.false_eq_true, if_false, Except.map]
              rw [change_expired there]
              exact .kept _ (Bool.eq_false_of_not_eq_true consumes)
      · rw [if_neg needs]
        refine .auto ?_
        simp [Config.gateNeeds, gateIs, Except.toOption, needs]

/-- The steps that requests are made of. -/
abbrev Moves (config : Config) : World → World → Prop :=
  Relation.ReflTransGen (Effect config)

theorem createConfirmationSession_moves {creation : Creation}
    (absent : world.sessions.get sessionId = none) :
    Moves config world ((createConfirmationSession config world now sessionId creation).toOption.getD
      world) := by
  cases ran : createConfirmationSession config world now sessionId creation with
  | error => exact .refl
  | ok next =>
      simp only [createConfirmationSession, require_bind_eq_ok] at ran
      obtain ⟨-, ran⟩ := ran
      obtain ⟨gate, -, ran⟩ := bind_eq_ok.mp ran
      split at ran
      · obtain rfl := Except.ok.inj ran
        exact .single (.created sessionId (creation.session now) absent rfl)
      · obtain rfl := Except.ok.inj ran
        exact .refl

theorem decideConfirmationSession_moves {confirm : Bool} {note : Option String} {actor : AgentId} :
    Moves config world (decideConfirmationSession world now sessionId confirm note actor).1 := by
  unfold decideConfirmationSession
  split
  · exact .refl
  · rcases @onSession_cases now world sessionId fun session => do
        let decided ← session.decide now confirm note actor
        .ok (decided, if confirm then [.confirmed now sessionId actor] else [])
      with unknown | ⟨session, there, ⟨error, raised⟩ | ⟨result, ran, changed⟩⟩
    · rw [unknown]
    · rw [raised]
      exact .single (.expired now _)
    · rw [changed]
      obtain ⟨decided, outcome, ran⟩ := bind_eq_ok.mp ran
      simp only [ConfirmationSession.decide, require_bind_eq_ok] at outcome
      obtain ⟨-, pending, owner, is⟩ := outcome
      obtain ⟨same, timely⟩ :=
        @ConfirmationSession.expireIfNeeded_open now session (by simp [pending])
      rw [same] at pending owner is
      obtain rfl := Except.ok.inj is
      obtain rfl := Except.ok.inj ran
      subst owner
      exact .single (.decided now sessionId session confirm note there pending timely)

theorem markSessionExpiredCancelled_moves {reason : String} :
    Moves config world (markSessionExpiredCancelled world now sessionId reason).1 := by
  unfold markSessionExpiredCancelled
  rcases @onSession_cases now world sessionId fun session => do
      let cancelled ← session.markExpiredCancelled now reason
      .ok (cancelled, [])
    with unknown | ⟨session, there, ⟨error, raised⟩ | ⟨result, ran, changed⟩⟩
  · rw [unknown]
  · rw [raised]
    exact .single (.expired now _)
  · rw [changed]
    obtain ⟨cancelled, outcome, ran⟩ := bind_eq_ok.mp ran
    simp only [ConfirmationSession.markExpiredCancelled, require_bind_eq_ok] at outcome
    obtain ⟨unused, is⟩ := outcome
    obtain rfl := Except.ok.inj is
    obtain rfl := Except.ok.inj ran
    refine .single (.cancelled now sessionId session reason there fun used => ?_)
    rw [ConfirmationSession.expireIfNeeded_used.mpr used] at unused
    simp at unused

theorem finish_released {acceptance : Acceptance}
    (free : config.needsYes acceptance.settleScene = false) :
    Moves config world (acceptance.finish world none) := by
  unfold Acceptance.finish
  split
  · exact .single (.released (acceptance.release none) free rfl)
  · exact .refl

theorem buyerAcceptSettlement_moves {acceptance : Acceptance}
    (absent : world.sessions.get sessionId = none) :
    Moves config world (buyerAcceptSettlement config world now acceptance sessionId) := by
  unfold buyerAcceptSettlement
  split
  case isFalse => exact .refl
  case isTrue =>
    split
    case isFalse free =>
      refine finish_released ?_
      simp [Config.needsYes, free]
    case isTrue =>
      have asserted := assertStepAllowed_asserted config now world acceptance.call
      generalize assertStepAllowed config world now acceptance.call = result at asserted
      cases asserted with
      | refused ids error =>
          refine .head (.expired now ids) (createConfirmationSession_moves ?_)
          simp [World.expire, OrderedTable.get_map, absent]
      | auto needless =>
          refine finish_released ?_
          have same : (config.resolveGate acceptance.settleScene "buyer" "buyer_accept_settle"
              false).toOption.any (·.needsOwner) = false := needless
          rw [Config.needsYes, same, Bool.and_false]
      | kept _ lasting => simp [Acceptance.call] at lasting
      | used used session there confirmed authorises =>
          have backs : acceptance.call.Backs (acceptance.release (some used)) :=
            ⟨rfl, rfl, rfl, rfl, acceptance.settlement.client⟩
          show Moves config world (acceptance.finish
            (world.change used (session.used now) [.used now used acceptance.call]) (some used))
          unfold Acceptance.finish
          split
          · have effect := @Effect.used config world now used session acceptance.call
              [acceptance.release (some used)] there confirmed authorises (by simp)
              (by simpa using ⟨rfl, backs⟩)
            simpa [World.change, World.note] using Relation.ReflTransGen.single effect
          · exact .single (.used now used session acceptance.call [] there confirmed authorises
              (by simp) (by simp))

theorem perform_moves {action : Action} (performed : perform config world action = some next) :
    Moves config world next := by
  cases action with
  | create time subject creation =>
      simp only [perform, Option.ite_none_right_eq_some, Option.some.injEq,
        Option.isNone_iff_eq_none] at performed
      obtain ⟨absent, rfl⟩ := performed
      exact createConfirmationSession_moves absent
  | get time subject =>
      obtain rfl := Option.some.inj performed
      exact .single (.expired time _)
  | list time limit =>
      obtain rfl := Option.some.inj performed
      exact .single (.expired time _)
  | cancel time subject reason =>
      obtain rfl := Option.some.inj performed
      exact markSessionExpiredCancelled_moves
  | decide time subject confirm note actor =>
      obtain rfl := Option.some.inj performed
      exact decideConfirmationSession_moves
  | assertStep time call =>
      obtain rfl := Option.some.inj performed
      have asserted := assertStepAllowed_asserted config time world call
      generalize assertStepAllowed config world time call = result at asserted
      cases asserted with
      | refused ids | kept ids => exact .single (.expired time ids)
      | auto => exact .refl
      | used used session there confirmed authorises =>
          exact .single (.used time used session call [] there confirmed authorises (by simp) (by simp))
  | satisfied time sceneId role step ownerAgentId interactionRef policyAutoAllowed =>
      obtain rfl := Option.some.inj performed
      unfold stepAlreadySatisfied
      split
      · exact .refl
      · split
        · exact .single (.expired time _)
        · exact .refl
  | buyerAccept time acceptance newSessionId =>
      simp only [perform, Option.ite_none_right_eq_some, Option.some.injEq,
        Option.isNone_iff_eq_none] at performed
      obtain ⟨absent, rfl⟩ := performed
      exact buyerAcceptSettlement_moves absent

end Requests

end TrustChain.OwnerConfirmation
