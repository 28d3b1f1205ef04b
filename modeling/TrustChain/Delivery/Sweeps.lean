import Mathlib.Data.Finset.Card
import TrustChain.Delivery.System

/-!
# Repeated sweeps

The sweep of silent buyers looks at the first sessions of the service, twice as many as its
limit, and counts those that it defaults. Sessions stay where they are for ever. Repeated at one
time until it counts none, it has defaulted all that it looks at, and no other.
-/

namespace TrustChain.Delivery

open Library

/-- The count of the loop of `expire_silent_buyers`. -/
def expireLoopApplied (config : Config) (now : Int) : Nat → List VerificationId → World → Nat
  | _, [], _ => 0
  | 0, _, _ => 0
  | limit + 1, verificationId :: rest, world =>
      let applied := (world.sessions.get verificationId).any fun session =>
        session.silenceOver now &&
          (session.applySilentBuyerDefault config now).status ∈ [.verified, .buyerSilentDefault]
      (if applied then 1 else 0) +
        expireLoopApplied config now (if applied then limit else limit + 1) rest
          (world.operate config now verificationId .applySilentBuyerDefault)

/-- The `swept` that `expire_silent_buyers` returns. -/
def sweptCount (config : Config) (world : World) (now : Int) (limit : Nat) : Nat :=
  expireLoopApplied config now limit (world.sessions.keys.take (limit * 2)) world

/-- The sessions after a number of sweeps at one time. -/
def sweeps (config : Config) (now : Int) (limit : Nat) : Nat → World → World
  | 0, world => world
  | count + 1, world => sweeps config now limit count (expireSilentBuyers config world now limit)

/-- The first sweep that counts none comes after `count` others. -/
def Ends (config : Config) (now : Int) (limit : Nat) : Nat → World → Prop
  | 0, world => sweptCount config world now limit = 0
  | count + 1, world => sweptCount config world now limit ≠ 0 ∧
      Ends config now limit count (expireSilentBuyers config world now limit)

/-- `apply_silent_buyer_default` would still default the session. -/
def Session.wouldDefault (config : Config) (now : Int) (session : Session) : Bool :=
  session.silenceOver now &&
    (session.applySilentBuyerDefault config now).status ∈ [.verified, .buyerSilentDefault]

/-- How often the silence of the buyer was taken for a confirmation. -/
def Session.silentDefaults (session : Session) : Nat :=
  session.events.countP (·.kind = .buyerSilentDefault)

/-- A session may be defaulted: its deadline is over, it is neither rejected nor of high risk,
and its chain is complete. -/
structure Session.MayDefault (now : Int) (session : Session) : Prop where
  deadline : ∃ deadline, session.buyerSilentDeadline = some deadline ∧ after now deadline = true
  rejected : session.status ≠ .rejected
  highRisk : session.highRisk = false
  chain : session.chainOk = true

/-- Sweeping at one time until a sweep counts none: no session is left that would be defaulted,
every session that was defaulted might be, and was so once. -/
structure SweepsClean (config : Config) (now : Int) (limit : Nat) (world : World) : Prop where
  complete : ∃ count, Ends config now limit count world ∧ ∀ verificationId session,
    (sweeps config now limit (count + 1) world).sessions.get verificationId = some session →
      session.wouldDefault config now = false
  careful : ∀ count verificationId session next,
    (sweeps config now limit count world).sessions.get verificationId = some session →
    (sweeps config now limit (count + 1) world).sessions.get verificationId = some next →
    session.silentDefaults < next.silentDefaults → session.MayDefault now
  once : ∀ count verificationId session later, world.sessions.get verificationId = some session →
    (sweeps config now limit count world).sessions.get verificationId = some later →
    later.silentDefaults ≤ session.silentDefaults + 1

section Sweeps

variable {config : Config} {now : Int} {limit count : Nat} {world : World}
  {verificationId : VerificationId} {session next : Session} {ids : List VerificationId}

/-! ## One session -/

namespace Session

theorem wouldDefault_eq (config : Config) (now : Int) (session : Session) :
    session.wouldDefault config now = (session.silenceOver now && session.chainOk) :=
  applied_iff session

theorem mayDefault_of_wouldDefault (would : session.wouldDefault config now = true) :
    session.MayDefault now := by
  rw [wouldDefault_eq, Bool.and_eq_true] at would
  obtain ⟨silent, chain⟩ := would
  simp only [silenceOver, Bool.and_eq_true, decide_eq_true_eq] at silent
  obtain ⟨⟨⟨status, risk⟩, _⟩, deadline⟩ := silent
  constructor
  · cases found : session.buyerSilentDeadline with
    | none => simp [found] at deadline
    | some stamp => exact ⟨stamp, rfl, by simpa [found] using deadline⟩
  · intro rejected
    simp [rejected] at status
  · simpa using risk
  · exact chain

/-- A session that would not be defaulted is left alone. -/
theorem apply_of_not_wouldDefault (not : session.wouldDefault config now = false) :
    session.applySilentBuyerDefault config now = session := by
  rw [wouldDefault_eq] at not
  rw [applySilentBuyerDefault, not]
  rfl

theorem prepared_silentDefaults :
    (session.prepared config now).silentDefaults = session.silentDefaults := by
  unfold prepared coverProofFields
  split
  · simp only []
    split
    · split
      · rfl
      · simp [silentDefaults, appendEvent]
    · rfl
  · rfl

theorem tryVerify_silentDefaults :
    (session.tryVerify config now).silentDefaults = session.silentDefaults := by
  rcases tryVerify_cases config now session with ⟨_, same⟩ | ⟨_, _, same⟩ | ⟨_, _, verifies⟩
  · rw [same]
  · rw [same, prepared_silentDefaults]
  · rw [← @prepared_silentDefaults config now session]
    generalize session.tryVerify config now = result at verifies
    cases verifies with
    | silently => rfl
    | automatically => simp [silentDefaults, appendEvent, verify]

/-- A session that is defaulted gets one event, and would not be defaulted again. -/
theorem apply_of_wouldDefault (would : session.wouldDefault config now = true) :
    (session.applySilentBuyerDefault config now).silentDefaults = session.silentDefaults + 1 ∧
      (session.applySilentBuyerDefault config now).wouldDefault config now = false := by
  rw [wouldDefault_eq] at would
  rw [applySilentBuyerDefault, if_pos would]
  constructor
  · rw [tryVerify_silentDefaults]
    simp [silentDefaults, silenced, appendEvent]
  · have status := tryVerify_status config now (session.silenced now)
    rw [wouldDefault_eq, silenceOver]
    rcases status with status | status
    · simp [status]
    · simp [status]

end Session

/-! ## One sweep -/

/-- The sweep would default the session that it finds under an identifier. -/
def dueIn (config : Config) (now : Int) (world : World) (verificationId : VerificationId) : Bool :=
  (world.sessions.get verificationId).any (·.wouldDefault config now)

theorem expireLoopApplied_eq (distinct : ids.Nodup) :
    expireLoopApplied config now limit ids world =
      (reached now world limit ids).countP (dueIn config now world) := by
  induction ids generalizing limit world with
  | nil => simp [expireLoopApplied, reached]
  | cons first rest ih =>
      cases limit with
      | zero => simp [expireLoopApplied, reached]
      | succ limit =>
          obtain ⟨fresh, distinct⟩ := List.nodup_cons.1 distinct
          have others : ∀ verificationId ∈ rest, (world.operate config now first
              .applySilentBuyerDefault).sessions.get verificationId =
                world.sessions.get verificationId := by
            intro verificationId member
            have different : verificationId ≠ first := fun same => fresh (same ▸ member)
            simp [World.operate, OrderedTable.get_modify, different]
          have due : ∀ limit, (reached now world limit rest).countP (dueIn config now
              (world.operate config now first .applySilentBuyerDefault)) =
                (reached now world limit rest).countP (dueIn config now world) := by
            intro limit
            apply List.countP_congr
            intro verificationId member
            rw [dueIn, dueIn, others verificationId (subset_reached limit rest member)]
          have head : (world.sessions.get first).any (fun session =>
              session.silenceOver now && session.chainOk) = dueIn config now world first := by
            simp only [dueIn, Session.wouldDefault_eq]
          simp only [expireLoopApplied, reached, applied_iff]
          rw [ih distinct, reached_congr _ rest others, due, List.countP_cons, head, Nat.add_comm]

theorem sweptCount_eq : sweptCount config world now limit =
    (swept now world limit).countP (dueIn config now world) := by
  have distinct : world.sessions.keys.Nodup := world.sessions.nodup
  exact expireLoopApplied_eq (distinct.sublist (List.take_sublist _ _))

/-- A sweep that counts none has looked at all that it may, and found none due. -/
theorem reached_of_none (positive : 1 ≤ limit)
    (none : (reached now world limit ids).countP (dueIn config now world) = 0) :
    reached now world limit ids = ids := by
  induction ids with
  | nil => cases limit <;> rfl
  | cons first rest ih =>
      obtain ⟨limit, rfl⟩ := Nat.exists_eq_add_of_le' positive
      have head : (world.sessions.get first).any (fun session =>
          session.silenceOver now && session.chainOk) = dueIn config now world first := by
        simp only [dueIn, Session.wouldDefault_eq]
      simp only [reached, head] at none ⊢
      rw [List.countP_cons] at none
      have idle : dueIn config now world first = false := by
        cases due : dueIn config now world first with
        | false => rfl
        | true => simp [due] at none
      rw [idle] at none ⊢
      exact congrArg _ (ih (by simpa using none))

theorem get_sweep : (expireSilentBuyers config world now limit).sessions.get verificationId =
    (world.sessions.get verificationId).map
      (sweepSession config now world limit verificationId) := by
  rw [expireSilentBuyers_sessions, OrderedTable.get_map]

theorem keys_sweep :
    (expireSilentBuyers config world now limit).sessions.keys = world.sessions.keys := by
  rw [expireSilentBuyers_sessions, OrderedTable.keys_map]

/-- A session beyond the first ones is never looked at. -/
theorem get_sweeps_beyond (beyond : verificationId ∉ world.sessions.keys.take (limit * 2)) :
    (sweeps config now limit count world).sessions.get verificationId =
      world.sessions.get verificationId := by
  induction count generalizing world with
  | zero => rfl
  | succ count ih =>
      rw [sweeps, ih (by rwa [keys_sweep]), get_sweep]
      have passed : verificationId ∉ swept now world limit :=
        fun member => beyond (subset_reached limit _ member)
      cases world.sessions.get verificationId with
      | none => rfl
      | some session => simp [sweepSession, passed]

/-- After each sweep a session is what the next sweep makes of it. -/
theorem sweeps_succ : sweeps config now limit (count + 1) world =
    expireSilentBuyers config (sweeps config now limit count world) now limit := by
  induction count generalizing world with
  | zero => rfl
  | succ count ih => exact ih

/-- After some sweeps a session is as it was, or it was defaulted once and is not due. -/
theorem get_sweeps (found : world.sessions.get verificationId = some session) :
    ∃ later, (sweeps config now limit count world).sessions.get verificationId = some later ∧
      (later = session ∨ later.wouldDefault config now = false ∧
        later.silentDefaults = session.silentDefaults + 1) := by
  induction count with
  | zero => exact ⟨session, found, .inl rfl⟩
  | succ count ih =>
      obtain ⟨later, there, result⟩ := ih
      rw [sweeps_succ, get_sweep, there, Option.map_some]
      refine ⟨_, rfl, ?_⟩
      unfold sweepSession
      split
      · cases would : later.wouldDefault config now with
        | false =>
            rw [Session.apply_of_not_wouldDefault would]
            exact result
        | true =>
            rcases result with rfl | ⟨idle, -⟩
            · exact .inr (Session.apply_of_wouldDefault would).symm
            · simp [would] at idle
      · exact result

/-- A sweep defaults a session only if it may. -/
theorem mayDefault_of_sweep (there : world.sessions.get verificationId = some session)
    (after : (expireSilentBuyers config world now limit).sessions.get verificationId = some next)
    (more : session.silentDefaults < next.silentDefaults) : session.MayDefault now := by
  rw [get_sweep, there, Option.map_some, Option.some.injEq] at after
  apply @Session.mayDefault_of_wouldDefault config
  cases would : session.wouldDefault config now with
  | true => rfl
  | false =>
      have same : next = session := by
        rw [← after, sweepSession, Session.apply_of_not_wouldDefault would, ite_self]
      simp [same] at more

/-! ## The last sweep -/

/-- The sessions that are due. -/
def due (config : Config) (now : Int) (world : World) : Finset VerificationId :=
  world.sessions.keys.toFinset.filter (dueIn config now world ·)

theorem mem_due :
    verificationId ∈ due config now world ↔ dueIn config now world verificationId := by
  simp only [due, Finset.mem_filter, List.mem_toFinset, and_iff_right_iff_imp,
    OrderedTable.mem_keys_iff]
  intro isDue
  cases found : world.sessions.get verificationId with
  | none => simp [dueIn, found] at isDue
  | some session => rfl

/-- No sweep makes a session due. -/
theorem due_sweep : due config now (expireSilentBuyers config world now limit) ⊆
    due config now world := by
  intro verificationId member
  simp only [mem_due, dueIn, get_sweep, Option.any_map] at member ⊢
  cases found : world.sessions.get verificationId with
  | none => simp [found] at member
  | some session =>
      cases would : session.wouldDefault config now with
      | true => simpa using would
      | false =>
          simp [found, sweepSession, Session.apply_of_not_wouldDefault would, would] at member

/-- A sweep that counts a session leaves fewer due. -/
theorem due_sweep_lt (counted : sweptCount config world now limit ≠ 0) :
    (due config now (expireSilentBuyers config world now limit)).card <
      (due config now world).card := by
  apply Finset.card_lt_card
  rw [sweptCount_eq, ← Nat.pos_iff_ne_zero, List.countP_pos_iff] at counted
  obtain ⟨verificationId, reached, isDue⟩ := counted
  rw [Finset.ssubset_iff_of_subset due_sweep]
  refine ⟨verificationId, mem_due.2 isDue, ?_⟩
  rw [mem_due, dueIn, get_sweep, Option.any_map]
  rw [dueIn] at isDue
  cases found : world.sessions.get verificationId with
  | none => simp
  | some session =>
      have would : session.wouldDefault config now = true := by simpa [found] using isDue
      simp [sweepSession, reached, (Session.apply_of_wouldDefault would).2]

/-- Sweeping comes to an end. -/
theorem exists_ends : ∃ count, Ends config now limit count world := by
  induction size : (due config now world).card using Nat.strong_induction_on generalizing world with
  | _ size ih =>
      by_cases counted : sweptCount config world now limit = 0
      · exact ⟨0, counted⟩
      · have fewer := due_sweep_lt counted
        rw [size] at fewer
        obtain ⟨count, ends⟩ := ih _ fewer rfl
        exact ⟨count + 1, counted, ends⟩

theorem keys_sweeps :
    (sweeps config now limit count world).sessions.keys = world.sessions.keys := by
  induction count with
  | zero => rfl
  | succ count ih => rw [sweeps_succ, keys_sweep, ih]

/-- The sweep after which sweeping ends counts none. -/
theorem sweptCount_of_ends (ends : Ends config now limit count world) :
    sweptCount config (sweeps config now limit count world) now limit = 0 := by
  induction count generalizing world with
  | zero => exact ends
  | succ count ih => exact ih ends.2

/-- When sweeping has ended, none of the first sessions is due. -/
theorem idle_of_ends (positive : 1 ≤ limit) (ends : Ends config now limit count world)
    (early : verificationId ∈ world.sessions.keys.take (limit * 2))
    (found : (sweeps config now limit (count + 1) world).sessions.get verificationId =
      some session) :
    session.wouldDefault config now = false := by
  have none := sweptCount_of_ends ends
  rw [sweptCount_eq, swept] at none
  have all := reached_of_none positive none
  rw [all, keys_sweeps, List.countP_eq_zero] at none
  have idle := none verificationId early
  rw [sweeps_succ, get_sweep] at found
  rw [dueIn] at idle
  cases before : (sweeps config now limit count world).sessions.get verificationId with
  | none => simp [before] at found
  | some last =>
      have still : last.wouldDefault config now = false := by simpa [before] using idle
      rw [before, Option.map_some, sweepSession, Session.apply_of_not_wouldDefault still, ite_self,
        Option.some.injEq] at found
      exact found ▸ still

/-- Sweeping until a sweep counts none defaults all that it should exactly if every session that
is due is among the first ones. -/
theorem sweeps_clean (positive : 1 ≤ limit) : SweepsClean config now limit world ↔
    ∀ verificationId session, world.sessions.get verificationId = some session →
      session.wouldDefault config now = true →
      verificationId ∈ world.sessions.keys.take (limit * 2) := by
  constructor
  · rintro ⟨⟨count, -, clean⟩, -, -⟩ verificationId session found would
    by_contra beyond
    have idle := clean verificationId session (by rw [get_sweeps_beyond beyond, found])
    simp [would] at idle
  · intro early
    constructor
    · obtain ⟨count, ends⟩ := @exists_ends config now limit world
      refine ⟨count, ends, ?_⟩
      intro verificationId session found
      by_cases inside : verificationId ∈ world.sessions.keys.take (limit * 2)
      · exact idle_of_ends positive ends inside found
      · rw [get_sweeps_beyond inside] at found
        cases would : session.wouldDefault config now with
        | true => exact absurd (early verificationId session found would) inside
        | false => rfl
    · intro count verificationId session next there after more
      rw [sweeps_succ] at after
      exact mayDefault_of_sweep there after more
    · intro count verificationId session later found there
      obtain ⟨same, is, result⟩ := @get_sweeps config now limit count world _ _ found
      obtain rfl := Option.some.inj (is.symm.trans there)
      rcases result with rfl | ⟨-, once⟩
      · exact Nat.le_succ _
      · exact once.le

end Sweeps

namespace Demo

/-- A scene in which a passenger is driven, and has an hour to object. -/
def rides : Config where
  scenes sceneId := if sceneId = "ride_hailing" then some {
      mode := .rideTrack
      requiredEvents := ["seller_trip_completed"]
      buyerSilentConfirmSeconds := some 3600 }
    else none
  requiredProofFields _ := []
  hmac material := material
  printTime _ := "t"

/-- Three trips are agreed on, and the last one is made. -/
def trips : Library.Scene (perform rides) {} where
  actions := [
    .create "a" "t" "ride_hailing" "s" "b" none none,
    .create "b" "u" "ride_hailing" "s" "b" none none,
    .create "c" "v" "ride_hailing" "s" "b" none none,
    .operate 1000000 "c" (.sellerShip "s" none)]
  possible := by decide +kernel

/-- More than an hour later. -/
def muchLater : Int := 5000000000

end Demo

/-- The first sweep counts none, as it looks at the two trips that are still to be made; the
passenger of the third has let the hour pass. -/
theorem third_left :
    (system Demo.rides).Run {} Demo.trips.actions Demo.trips.world ∧
    sweptCount Demo.rides Demo.trips.world Demo.muchLater 1 = 0 ∧
    (Demo.trips.world.sessions.get "c").map (·.wouldDefault Demo.rides Demo.muchLater) =
      some true ∧
    ¬SweepsClean Demo.rides Demo.muchLater 1 Demo.trips.world := by
  have due : (Demo.trips.world.sessions.get "c").map (·.wouldDefault Demo.rides Demo.muchLater) =
      some true := by decide +kernel
  refine ⟨Library.Scene.run (fun _ _ _ performed => performed) Demo.trips, by decide +kernel,
    due, ?_⟩
  rintro ⟨⟨count, -, clean⟩, -, -⟩
  have beyond : "c" ∉ Demo.trips.world.sessions.keys.take (1 * 2) := by decide +kernel
  obtain ⟨session, found, would⟩ := Option.map_eq_some_iff.1 due
  have idle := clean "c" session (by rw [get_sweeps_beyond beyond, found])
  simp [would] at idle

/-- With a limit of two the sweep looks at all three. -/
theorem sweeps_clean_two : SweepsClean Demo.rides Demo.muchLater 2 Demo.trips.world := by
  apply (sweeps_clean (by decide)).2
  intro verificationId session found _
  have all : Demo.trips.world.sessions.keys.take (2 * 2) = Demo.trips.world.sessions.keys := by
    decide +kernel
  rw [all, OrderedTable.mem_keys_iff, found]
  rfl

end TrustChain.Delivery
