import Mathlib.Data.List.Perm.Subperm
import TrustChain.Library.Occurrences
import TrustChain.OwnerConfirmation.Effects

/-!
# One Yes for one action

A session is used up at most once, after its owner has confirmed it in time, by a call that it
fits. So the releases that need a session are never more than the sessions that were confirmed.
-/

namespace TrustChain.OwnerConfirmation

open Library
open Delivery (SceneId AgentId TaskId iso after orEmpty)

/-- The owner has confirmed the session in time. -/
def Confirmed (history : List Event) (sessionId : SessionId) (session : ConfirmationSession) : Prop :=
  ∃ time, .confirmed time sessionId session.ownerAgentId ∈ history ∧
    after time session.deadline = false

def Event.usedId : Event → Option SessionId
  | .used _ sessionId _ => some sessionId
  | _ => none

def Event.releasedId : Event → Option SessionId
  | .released release => release.sessionId
  | _ => none

/-- Whether the owner has confirmed a session. -/
def Event.confirms (sessionId : SessionId) (owner : AgentId) : Event → Bool
  | .confirmed _ subject actor => subject = sessionId && actor = owner
  | _ => false

/-- Whether a buyer releases a task in a scene. -/
def Event.releases (buyer : AgentId) (sceneId : SceneId) : Event → Bool
  | .released release => release.buyer = buyer && release.sceneId = sceneId
  | _ => false

namespace World

variable (world : World)

/-- The releases of a buyer in a scene. -/
def releases (buyer : AgentId) (sceneId : SceneId) : List Event :=
  world.history.filter (Event.releases buyer sceneId)

/-- The sessions for such releases that the buyer has confirmed. -/
def yeses (buyer : AgentId) (sceneId : SceneId) : List (SessionId × ConfirmationSession) :=
  world.sessions.rows.filter fun row =>
    row.2.ownerAgentId = buyer && row.2.sceneId = sceneId && row.2.role = "buyer" &&
      row.2.step = "buyer_accept_settle" && world.history.any (Event.confirms row.1 buyer)

def usedIds : List SessionId := world.history.filterMap Event.usedId

def releasedIds : List SessionId := world.history.filterMap Event.releasedId

/-- Every use is one of a session that fits the call and that its owner has confirmed before. -/
def Authorised : Prop :=
  ∀ before later time sessionId call,
    world.history = before ++ .used time sessionId call :: later →
    ∃ session, world.sessions.get sessionId = some session ∧ session.Authorises time call ∧
      Confirmed before sessionId session

end World

/-- What holds of the sessions and of what has happened to them. -/
structure Sound (config : Config) (world : World) : Prop where
  used : ∀ sessionId ∈ world.usedIds, ∃ session,
    world.sessions.get sessionId = some session ∧ session.status = .used
  distinct : world.usedIds.Nodup
  confirmed : ∀ sessionId session, world.sessions.get sessionId = some session →
    session.status = .confirmed → Confirmed world.history sessionId session
  authorised : world.Authorised
  inOrder : world.releasedIds.Sublist world.usedIds
  backed : ∀ release, .released release ∈ world.history →
    (config.needsYes release.sceneId = true → release.sessionId.isSome) ∧
    ∀ sessionId, release.sessionId = some sessionId →
      ∃ time call, .used time sessionId call ∈ world.history ∧ call.Backs release

section Proofs

variable {config : Config} {now : Int} {world next : World} {sessionId : SessionId}
  {session after : ConfirmationSession} {time : Int} {call : Call}

namespace SameTerms

theorem refl (session : ConfirmationSession) : SameTerms session session :=
  ⟨rfl, rfl, rfl, rfl, rfl, rfl, rfl⟩

theorem authorises (same : SameTerms session after) (fits : session.Authorises time call) :
    after.Authorises time call where
  scene := same.sceneId ▸ fits.scene
  role := same.role ▸ fits.role
  step := same.step ▸ fits.step
  owner := same.ownerAgentId ▸ fits.owner
  interaction := same.interactionRef ▸ fits.interaction
  amount := same.maxAmount ▸ fits.amount
  timely := same.deadline ▸ fits.timely

theorem confirmed {history : List Event} (same : SameTerms session after)
    (confirmed : Confirmed history sessionId session) : Confirmed history sessionId after := by
  obtain ⟨time, member, timely⟩ := confirmed
  exact ⟨time, same.ownerAgentId ▸ member, same.deadline ▸ timely⟩

end SameTerms

theorem Confirmed.append {history : List Event} (confirmed : Confirmed history sessionId session)
    (extra : List Event) : Confirmed (history ++ extra) sessionId session := by
  obtain ⟨time, member, timely⟩ := confirmed
  exact ⟨time, List.mem_append_left _ member, timely⟩

@[simp] theorem get_change {subject : SessionId} {events : List Event} :
    (world.change subject after events).sessions.get sessionId =
      (world.sessions.get sessionId).map fun session =>
        if sessionId = subject then after else session :=
  OrderedTable.get_modify _ _ _ _

@[simp] theorem get_expire {ids : List SessionId} :
    (world.expire now ids).sessions.get sessionId =
      (world.sessions.get sessionId).map fun session =>
        if sessionId ∈ ids then session.expireIfNeeded now else session :=
  OrderedTable.get_map _ _ _

/-- Every session stays, on its terms, and a used one stays used. -/
def Keeps (world next : World) : Prop :=
  ∀ sessionId session, world.sessions.get sessionId = some session →
    ∃ after, next.sessions.get sessionId = some after ∧ SameTerms session after ∧
      (session.status = .used → after.status = .used)

theorem keeps_change {events : List Event} (there : world.sessions.get sessionId = some session)
    (same : SameTerms session after) (kept : session.status = .used → after.status = .used) :
    Keeps world (world.change sessionId after events) := by
  intro found row here
  rw [get_change, here, Option.map_some]
  by_cases is : found = sessionId
  · subst is
    obtain rfl := Option.some.inj (there.symm.trans here)
    exact ⟨after, by simp, same, kept⟩
  · exact ⟨row, by simp [is], .refl row, fun used => used⟩

theorem Effect.keeps (effect : Effect config world next) : Keeps world next := by
  cases effect with
  | expired now ids =>
      intro found row here
      rw [get_expire, here, Option.map_some]
      split
      · exact ⟨_, rfl, row.expireIfNeeded_terms now,
          ConfirmationSession.expireIfNeeded_used.mpr⟩
      · exact ⟨row, rfl, .refl row, fun used => used⟩
  | created subject session absent =>
      intro found row here
      have different : found ≠ subject := by
        rintro rfl
        simp [absent] at here
      exact ⟨row, by rw [OrderedTable.get_set, if_neg different, here], .refl row, fun used => used⟩
  | decided _ _ _ _ _ there pending =>
      exact keeps_change there ⟨rfl, rfl, rfl, rfl, rfl, rfl, rfl⟩ fun used => by
        simp [used] at pending
  | cancelled now _ session _ there unused =>
      have same := session.expireIfNeeded_terms now
      exact keeps_change there ⟨same.1, same.2, same.3, same.4, same.5, same.6, same.7⟩
        fun used => absurd used unused
  | used _ _ _ _ _ there =>
      exact keeps_change there ⟨rfl, rfl, rfl, rfl, rfl, rfl, rfl⟩ fun _ => rfl
  | released => exact fun _ row here => ⟨row, here, .refl row, fun used => used⟩

/-- Authorised uses stay so, if the new ones are. -/
theorem authorised_of_append {extra : List Event} (authorised : world.Authorised)
    (keeps : Keeps world next) (grows : next.history = world.history ++ extra)
    (new : ∀ before later time sessionId call, extra = before ++ .used time sessionId call :: later →
      ∃ session, next.sessions.get sessionId = some session ∧ session.Authorises time call ∧
        Confirmed (world.history ++ before) sessionId session) : next.Authorised := by
  intro before later time sessionId call split
  rw [grows] at split
  rcases split_of_append split with ⟨rest, old⟩ | ⟨first, rfl, recent⟩
  · obtain ⟨session, there, fits, confirmed⟩ := authorised before rest time sessionId call old
    obtain ⟨after, here, same, -⟩ := keeps sessionId session there
    exact ⟨after, here, same.authorises fits, same.confirmed confirmed⟩
  · exact new first later time sessionId call recent

/-- An event that is neither a use nor a release. -/
def Event.Quiet (event : Event) : Prop :=
  event.usedId = none ∧ ∀ release, event ≠ .released release

theorem Sound.quiet {extra : List Event} (sound : Sound config world) (keeps : Keeps world next)
    (grows : next.history = world.history ++ extra) (quiet : ∀ event ∈ extra, event.Quiet)
    (confirmed : ∀ sessionId session, next.sessions.get sessionId = some session →
      session.status = .confirmed → Confirmed next.history sessionId session) :
    Sound config next := by
  have unused : extra.filterMap Event.usedId = [] :=
    List.filterMap_eq_nil_iff.mpr fun event member => (quiet event member).1
  have unreleased : extra.filterMap Event.releasedId = [] := by
    refine List.filterMap_eq_nil_iff.mpr fun event member => ?_
    cases event with
    | released release => exact absurd rfl ((quiet _ member).2 release)
    | confirmed | used => rfl
  have usedIds : next.usedIds = world.usedIds := by
    simp [World.usedIds, grows, unused]
  have releasedIds : next.releasedIds = world.releasedIds := by
    simp [World.releasedIds, grows, unreleased]
  refine ⟨?_, usedIds ▸ sound.distinct, confirmed, ?_, ?_, ?_⟩
  · rw [usedIds]
    intro sessionId member
    obtain ⟨session, there, used⟩ := sound.used sessionId member
    obtain ⟨after, here, -, kept⟩ := keeps sessionId session there
    exact ⟨after, here, kept used⟩
  · refine authorised_of_append sound.authorised keeps grows ?_
    rintro before later time sessionId call rfl
    have use := (quiet (.used time sessionId call) (by simp)).1
    simp [Event.usedId] at use
  · rw [usedIds, releasedIds]
    exact sound.inOrder
  · intro release member
    rw [grows, List.mem_append] at member
    rcases member with old | new
    · obtain ⟨gated, backed⟩ := sound.backed release old
      refine ⟨gated, fun sessionId is => ?_⟩
      obtain ⟨time, call, use, backs⟩ := backed sessionId is
      exact ⟨time, call, grows ▸ List.mem_append_left _ use, backs⟩
    · exact absurd rfl ((quiet _ new).2 release)

/-- A confirmed session has been confirmed, if it was before or the change confirms it. -/
theorem confirmed_change {events : List Event} (sound : Sound config world)
    (new : after.status = .confirmed → Confirmed (world.history ++ events) sessionId after)
    (found : SessionId) (row : ConfirmationSession)
    (here : (world.change sessionId after events).sessions.get found = some row)
    (confirmed : row.status = .confirmed) :
    Confirmed (world.change sessionId after events).history found row := by
  rw [get_change, Option.map_eq_some_iff] at here
  obtain ⟨before, was, is⟩ := here
  split at is
  · subst is
    rename_i same
    exact same ▸ new confirmed
  · subst is
    exact (sound.confirmed found before was confirmed).append events

/-- A use of a confirmed session, with the release that it is for. -/
theorem Sound.use {subject : SessionId} {releases : List Release} (sound : Sound config world)
    (keeps : Keeps world (world.change subject (session.used now)
      (.used now subject call :: releases.map .released)))
    (there : world.sessions.get subject = some session) (confirmed : session.status = .confirmed)
    (fits : session.Authorises now call) (single : releases.length ≤ 1)
    (backs : ∀ release ∈ releases, release.sessionId = some subject ∧ call.Backs release) :
    Sound config (world.change subject (session.used now)
      (.used now subject call :: releases.map .released)) := by
  have fresh : subject ∉ world.usedIds := by
    intro member
    obtain ⟨other, here, used⟩ := sound.used subject member
    obtain rfl := Option.some.inj (there.symm.trans here)
    simp [used] at confirmed
  have usedIds : (world.change subject (session.used now)
      (.used now subject call :: releases.map .released)).usedIds = world.usedIds ++ [subject] := by
    simp [World.usedIds, World.change, Event.usedId, List.filterMap_map, Function.comp_def]
  refine ⟨?_, ?_, confirmed_change sound (by simp), ?_, ?_, ?_⟩
  · rw [usedIds]
    intro sessionId member
    rcases List.mem_append.mp member with old | new
    · obtain ⟨before, was, used⟩ := sound.used sessionId old
      obtain ⟨after, here, -, kept⟩ := keeps sessionId before was
      exact ⟨after, here, kept used⟩
    · obtain rfl := List.mem_singleton.mp new
      exact ⟨session.used now, by simp [there], rfl⟩
  · rw [usedIds, List.nodup_append]
    refine ⟨sound.distinct, List.nodup_singleton _, ?_⟩
    rintro old member _ new rfl
    obtain rfl := List.mem_singleton.mp new
    exact fresh member
  · refine authorised_of_append sound.authorised keeps rfl ?_
    intro before later time sessionId other split
    cases before with
    | nil =>
        obtain ⟨head, -⟩ := List.cons.inj split
        obtain ⟨rfl, rfl, rfl⟩ := Event.used.inj head
        obtain ⟨after, here, same, -⟩ := keeps subject session there
        refine ⟨after, here, same.authorises fits, same.confirmed ?_⟩
        rw [List.append_nil]
        exact sound.confirmed subject session there confirmed
    | cons _ rest =>
        have member : Event.used time sessionId other ∈ releases.map Event.released := by
          rw [(List.cons.inj split).2]
          simp
        simp at member
  · rw [usedIds]
    have releasedIds : (world.change subject (session.used now)
        (.used now subject call :: releases.map .released)).releasedIds =
          world.releasedIds ++ releases.filterMap (·.sessionId) := by
      simp [World.releasedIds, World.change, List.filterMap_cons, Event.releasedId,
        List.filterMap_map, Function.comp_def]
    rw [releasedIds]
    refine sound.inOrder.append ?_
    rcases releases with _ | ⟨release, _ | _⟩
    · simp
    · simp [(backs release List.mem_cons_self).1]
    · simp at single
  · intro release member
    rcases List.mem_append.mp member with old | new
    · obtain ⟨gated, backed⟩ := sound.backed release old
      refine ⟨gated, fun sessionId is => ?_⟩
      obtain ⟨time, call, use, backs⟩ := backed sessionId is
      exact ⟨time, call, List.mem_append_left _ use, backs⟩
    · have inside : release ∈ releases := by simpa using new
      obtain ⟨named, backed⟩ := backs release inside
      refine ⟨fun _ => by simp [named], fun sessionId is => ?_⟩
      obtain rfl := Option.some.inj (named.symm.trans is)
      exact ⟨now, call, List.mem_append_right _ List.mem_cons_self, backed⟩

theorem Effect.sound (effect : Effect config world next) (sound : Sound config world) :
    Sound config next := by
  have keeps := effect.keeps
  cases effect with
  | expired now ids =>
      refine sound.quiet keeps (List.append_nil _).symm (by simp) fun found row here confirmed => ?_
      rw [get_expire, Option.map_eq_some_iff] at here
      obtain ⟨before, was, is⟩ := here
      split at is
      · subst is
        obtain ⟨same, -⟩ := @ConfirmationSession.expireIfNeeded_open now before (by simp [confirmed])
        rw [same] at confirmed ⊢
        exact sound.confirmed found before was confirmed
      · subst is
        exact sound.confirmed found before was confirmed
  | created subject session absent pending =>
      refine sound.quiet keeps (List.append_nil _).symm (by simp) fun found row here confirmed => ?_
      rcases OrderedTable.get_set_eq_some.mp here with ⟨-, rfl⟩ | ⟨-, here⟩
      · simp [pending] at confirmed
      · exact sound.confirmed found row here confirmed
  | decided now subject session confirm note there pending timely =>
      refine sound.quiet keeps rfl ?_ (confirmed_change sound fun confirmed => ?_)
      · cases confirm <;> simp [Event.Quiet, Event.usedId]
      · cases confirm with
        | false => simp at confirmed
        | true => exact ⟨now, by simp [ConfirmationSession.decided], timely⟩
  | cancelled now subject session reason there =>
      exact sound.quiet keeps rfl (by simp) (confirmed_change sound (by simp))
  | used now subject session call releases there confirmed fits single backs =>
      exact sound.use keeps there confirmed fits single backs
  | released release free unnamed =>
      have usedIds : (world.note (.released release)).usedIds = world.usedIds := by
        simp [World.usedIds, World.note, Event.usedId]
      refine ⟨usedIds ▸ sound.used, usedIds ▸ sound.distinct, fun found row here confirmed => ?_,
        ?_, ?_, fun other member => ?_⟩
      · exact (sound.confirmed found row here confirmed).append _
      · refine authorised_of_append sound.authorised keeps rfl ?_
        intro before later time sessionId call split
        rcases before with _ | ⟨_, _ | _⟩ <;> simp at split
      · have releasedIds : (world.note (.released release)).releasedIds = world.releasedIds := by
          simp [World.releasedIds, World.note, Event.releasedId, unnamed]
        rw [usedIds, releasedIds]
        exact sound.inOrder
      · rcases List.mem_append.mp member with old | new
        · obtain ⟨gated, backed⟩ := sound.backed other old
          refine ⟨gated, fun sessionId is => ?_⟩
          obtain ⟨time, call, use, backs⟩ := backed sessionId is
          exact ⟨time, call, List.mem_append_left _ use, backs⟩
        · obtain rfl := Event.released.inj (List.mem_singleton.mp new)
          simp [free, unnamed]

theorem sound_of_reachable (reachable : (system config).Reachable world) :
    Sound config world := by
  refine reachable.invariant ?_ ?_
  · rintro _ rfl
    refine ⟨?_, List.nodup_nil, ?_, ?_, List.Sublist.refl _, ?_⟩
    · simp [World.usedIds]
    · simp
    · intro before later time sessionId call split
      simp at split
    · simp
  · intro state action next _ sound performed
    have moves := perform_moves performed
    clear performed
    induction moves with
    | refl => exact sound
    | tail _ effect ih => exact effect.sound ih

/-- The session of a release that needs a Yes is one that its buyer has confirmed for it. -/
theorem mem_yeses {release : Release} (sound : Sound config world)
    (released : .released release ∈ world.history) (is : release.sessionId = some sessionId) :
    sessionId ∈ (world.yeses release.buyer release.sceneId).map Prod.fst := by
  obtain ⟨time, call, use, backs⟩ := (sound.backed release released).2 sessionId is
  obtain ⟨before, later, split⟩ := List.append_of_mem use
  obtain ⟨session, there, fits, confirmedAt, confirmed, -⟩ :=
    sound.authorised before later time sessionId call split
  have owner : session.ownerAgentId = release.buyer := by
    have expected := fits.owner
    rw [backs.buyer] at expected
    exact expected.resolve_left backs.named
  have role : session.role = "buyer" := by
    rw [fits.role, backs.role]
    decide +kernel
  refine List.mem_map.mpr ⟨(sessionId, session), ?_, rfl⟩
  refine List.mem_filter.mpr ⟨OrderedTable.mem_rows_iff.mpr there, ?_⟩
  have said : world.history.any (Event.confirms sessionId release.buyer) = true := by
    refine List.any_eq_true.mpr ⟨_, split ▸ List.mem_append_left _ confirmed, ?_⟩
    simp [Event.confirms, owner]
  simp [owner, fits.scene, backs.scene, role, fits.step, backs.step, said]

/-- The releases of a buyer that need a Yes are not more than the sessions that the buyer has
confirmed for such releases. -/
theorem releases_le_yeses (sound : Sound config world) {buyer : AgentId} {sceneId : SceneId}
    (needs : config.needsYes sceneId = true) :
    (world.releases buyer sceneId).length ≤ (world.yeses buyer sceneId).length := by
  have distinct : ((world.releases buyer sceneId).filterMap Event.releasedId).Nodup :=
    sound.distinct.sublist ((List.filter_sublist.filterMap _).trans sound.inOrder)
  have named : ((world.releases buyer sceneId).filterMap Event.releasedId).length =
      (world.releases buyer sceneId).length := by
    refine List.filterMap_length_eq_length.mpr fun event member => ?_
    obtain ⟨inside, matching⟩ := List.mem_filter.mp member
    cases event with
    | released release =>
        simp only [Event.releases, Bool.and_eq_true, decide_eq_true_eq] at matching
        exact (sound.backed release inside).1 (matching.2 ▸ needs)
    | confirmed | used => simp [Event.releases] at matching
  have confirmed : (world.releases buyer sceneId).filterMap Event.releasedId ⊆
      (world.yeses buyer sceneId).map Prod.fst := by
    intro sessionId member
    obtain ⟨event, among, is⟩ := List.mem_filterMap.mp member
    obtain ⟨inside, matching⟩ := List.mem_filter.mp among
    cases event with
    | released release =>
        simp only [Event.releases, Bool.and_eq_true, decide_eq_true_eq] at matching
        obtain ⟨rfl, rfl⟩ := matching
        exact mem_yeses sound inside is
    | confirmed | used => simp [Event.releases] at matching
  calc (world.releases buyer sceneId).length
      = ((world.releases buyer sceneId).filterMap Event.releasedId).length := named.symm
    _ ≤ ((world.yeses buyer sceneId).map Prod.fst).length :=
        (List.subperm_of_subset distinct confirmed).length_le
    _ = (world.yeses buyer sceneId).length := List.length_map _

end Proofs

namespace Demo

/-- A hotel room is paid after the owner's Yes. -/
def config (appEnv : String) : Config where
  scenes sceneId := if sceneId = "hotel_booking" then some { modes := fun _ _ => some .ownerConfirm }
    else none
  globalDefaults _ _ := some .ownerConfirm
  appEnv

abbrev Scene (appEnv : String) := Library.Scene (perform (config appEnv)) {}

theorem Scene.run {appEnv : String} (scene : Scene appEnv) :
    (system (config appEnv)).Run {} scene.actions scene.world :=
  Library.Scene.run (fun _ _ _ performed => performed) scene

def stay (escrowAmount : Double) : Settlement where
  taskId := "t"
  clientAgentId := "b"
  escrowAmount
  storedScene := some "hotel_booking"
  client := by decide

def acceptance (escrowAmount : Double) (confirmationSessionId : Option SessionId) : Acceptance where
  settlement := stay escrowAmount
  confirmationSessionId
  sceneId := none
  admitted := true
  received := true

/-- On a developer's machine nobody is asked. -/
def unasked : Scene "development" where
  actions := [.buyerAccept 1000000 (acceptance (.finite 10) none) "c"]
  possible := by decide +kernel

/-- What a little more than ten is. -/
def littleMore : Double := .round (10 + 1 / 2000000)

/-- The owner confirms ten, and a little more is released. -/
def more : Scene "production" where
  actions := [.buyerAccept 1000000 (acceptance (.finite 10) none) "c",
    .decide 2000000 "c" true none "b",
    .buyerAccept 3000000 (acceptance littleMore (some "c")) "d"]
  possible := by decide +kernel

/-- Whether a session is used up for an amount. -/
def usesFor (sessionId : SessionId) (amount : Double) : Event → Bool
  | .used _ subject call => subject = sessionId && call.amount = some amount
  | _ => false

end Demo

end TrustChain.OwnerConfirmation
