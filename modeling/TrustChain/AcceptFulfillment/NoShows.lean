import TrustChain.AcceptFulfillment.Counters
import TrustChain.OwnerConfirmation.Effects

/-!
# Every session once, in every run

A request makes entries in the ledger. While the no-shows that the requests still owe fit into
the 5000 events, nothing is cut off, and the counters of every seller say what has happened.
-/

namespace TrustChain.AcceptFulfillment

open Library
open OwnerConfirmation (SessionId ConfirmationSession onSession markSessionExpiredCancelled
  listPendingSellerAcceptSessions)
open Delivery (SceneId AgentId orEmpty)

/-- A session that has run out, or was cancelled for it, and makes a no-show. -/
def due (world : World) (now : Int) (sessionId : SessionId) : Bool :=
  match world.confirmations.sessions.get sessionId with
  | none => false
  | some stored =>
      let session := stored.expireIfNeeded now
      IsSellerAccept session ∧
        (session.status = .cancelled ∧ session.cancelReason = some timeoutReason ∨
          session.status = .expired)

/-- A session that is due and not entered yet. -/
def owes (world : World) (now : Int) (sessionId : SessionId) : Bool :=
  due world now sessionId &&
    (world.books.ledger.earlier (some sessionId) (·.missed .timeout)).isNone

/-- How many no-shows a request is to enter. -/
def owed (world : World) : Action → ℕ
  | .nonConfirm _ order reason =>
      match Reason.named reason with
      | none => 0
      | some reason =>
          if (world.books.ledger.earlier order.sessionId (·.missed reason)).isNone then 1 else 0
  | .process now sessionId _ => if owes world now sessionId then 1 else 0
  | .sweep now limit => (pendingSellerAccepts world limit).countP (owes world now)
  | _ => 0

/-- The no-shows that a request is to enter fit into the 5000 events. -/
def Uncut (world : World) (action : Action) : Prop :=
  owed world action = 0 ∨ world.books.ledger.events.length + owed world action ≤ 5000

section Requests

variable {bounded : Prop} {books : Books} {world : World} {now : Int} {order : Order}
  {sessionId other : SessionId} {recorded : Recorded} {sellerId : AgentId} {ids : List SessionId}

theorem profiled_run (bounded : Prop) (books : Books) (sellerId : AgentId) (recorded : Recorded) :
    ∃ entries, (ledgerSystem.restrict (Fits bounded)).Run books entries
      (profiled books sellerId recorded).1 := by
  unfold profiled
  split
  · exact ⟨[], .nil⟩
  · exact ⟨[.opened _], .single ⟨.opened _, trivial⟩⟩

@[simp] theorem profiled_events :
    (profiled books sellerId recorded).1.ledger.events = books.ledger.events := by
  unfold profiled
  split
  · rfl
  · exact openSeller_events

/-- What a record of a no-show enters. -/
theorem recordSellerNonConfirm_run (reason : String)
    (room : ∀ named, Reason.named reason = some named →
      books.ledger.earlier order.sessionId (·.missed named) = none →
      bounded → books.ledger.events.length < 5000) :
    ∃ entries, (ledgerSystem.restrict (Fits bounded)).Run books entries
      (recordSellerNonConfirm books now order reason).1 := by
  unfold recordSellerNonConfirm
  split
  · exact ⟨[], .nil⟩
  · next named given =>
      split
      · exact profiled_run bounded _ _ _
      · next unknown =>
          obtain ⟨entries, run⟩ := profiled_run bounded (books.miss now order named)
            order.sellerId ⟨false, books.missEvent now order named⟩
          exact ⟨_, .cons ⟨.missed now order named unknown, room named given unknown⟩ run⟩

theorem recordSellerConfirm_run : ∃ entries,
    (ledgerSystem.restrict (Fits bounded)).Run books entries
      (recordSellerConfirm books now order).1 := by
  unfold recordSellerConfirm
  split
  · exact profiled_run bounded _ _ _
  · next unknown =>
      obtain ⟨entries, run⟩ := profiled_run bounded (books.confirm now order) order.sellerId
        ⟨false, books.confirmEvent now order⟩
      exact ⟨_, .cons ⟨.confirmed now order unknown, trivial⟩ run⟩

/-- The events after a record of a timeout: those before, or one more of that session. -/
theorem recordSellerNonConfirm_events :
    (recordSellerNonConfirm books now order "timeout").1.ledger.events =
      if (books.ledger.earlier order.sessionId (·.missed .timeout)).isNone then
        cut (books.ledger.events ++ [books.missEvent now order .timeout])
      else books.ledger.events := by
  have named : Reason.named "timeout" = some .timeout := rfl
  rw [recordSellerNonConfirm, named]
  cases earlier : books.ledger.earlier order.sessionId (·.missed .timeout) with
  | none => simp [earlier, Books.miss]
  | some event => simp [earlier]

/-! ## One session of the sweep -/

theorem expireIfNeeded_again (session : ConfirmationSession) :
    (session.expireIfNeeded now).expireIfNeeded now = session.expireIfNeeded now := by
  by_cases late : session.status ∈ [.pending, .confirmed] ∧ Delivery.after now session.deadline
  · have expired : session.expireIfNeeded now = { session with status := .expired } := if_pos late
    rw [expired]
    rfl
  · have same : session.expireIfNeeded now = session := if_neg late
    rw [same, same]

/-- Looking at sessions leaves what is due as it is. -/
theorem due_expire (ids : List SessionId) :
    due { world with confirmations := world.confirmations.expire now ids } now sessionId =
      due world now sessionId := by
  unfold due
  simp only [OwnerConfirmation.World.expire, OrderedTable.get_map]
  cases world.confirmations.sessions.get sessionId with
  | none => rfl
  | some stored =>
      simp only [Option.map_some]
      split
      · rw [expireIfNeeded_again]
      · rfl

theorem owes_expire (ids : List SessionId) :
    owes { world with confirmations := world.confirmations.expire now ids } now sessionId =
      owes world now sessionId := by
  rw [owes, owes, due_expire]

/-- The books after one session has been processed. -/
theorem process_books (applyCancel : Bool) :
    (due world now sessionId = false ∧
      (processExpiredSellerSession world now sessionId applyCancel).1.books = world.books) ∨
    (due world now sessionId = true ∧ ∃ session,
      (processExpiredSellerSession world now sessionId applyCancel).1.books =
        (recordSellerNonConfirm world.books now (orderOf sessionId session) "timeout").1) := by
  unfold processExpiredSellerSession due
  cases found : world.confirmations.sessions.get sessionId with
  | none => exact .inl ⟨rfl, rfl⟩
  | some stored =>
      simp only
      by_cases accept : IsSellerAccept (stored.expireIfNeeded now)
      · rw [if_pos accept]
        by_cases cancelled : (stored.expireIfNeeded now).status = .cancelled ∧
            (stored.expireIfNeeded now).cancelReason = some timeoutReason
        · rw [if_pos cancelled]
          exact .inr ⟨decide_eq_true ⟨accept, .inl cancelled⟩, _, rfl⟩
        · rw [if_neg cancelled]
          by_cases expired : (stored.expireIfNeeded now).status = .expired
          · rw [if_pos expired]
            refine .inr ⟨decide_eq_true ⟨accept, .inr expired⟩, stored.expireIfNeeded now, ?_⟩
            generalize recordSellerNonConfirm world.books now
              (orderOf sessionId (stored.expireIfNeeded now)) "timeout" = result
            obtain ⟨books, error | record⟩ := result
            · rfl
            · cases applyCancel <;> rfl
          · rw [if_neg expired]
            exact .inl ⟨decide_eq_false fun either => either.2.elim cancelled expired, rfl⟩
      · rw [if_neg accept]
        exact .inl ⟨decide_eq_false fun both => accept both.1, rfl⟩

/-- Other sessions are left alone. -/
theorem markSessionExpiredCancelled_other {confirmations : OwnerConfirmation.World}
    {reason : String} (different : other ≠ sessionId) :
    (markSessionExpiredCancelled confirmations now sessionId reason).1.sessions.get other =
      confirmations.sessions.get other := by
  unfold markSessionExpiredCancelled onSession
  split
  · rfl
  · dsimp only
    split <;> simp [OwnerConfirmation.World.change, OrderedTable.get_modify, different]

theorem process_other (applyCancel : Bool) (different : other ≠ sessionId) :
    due (processExpiredSellerSession world now sessionId applyCancel).1 now other =
      due world now other := by
  have looked : (world.confirmations.expire now [sessionId]).sessions.get other =
      world.confirmations.sessions.get other := by
    simp only [OwnerConfirmation.World.expire, OrderedTable.get_map, List.mem_singleton,
      if_neg different, Option.map_id']
  have sessions :
      (processExpiredSellerSession world now sessionId applyCancel).1.confirmations.sessions.get
        other = world.confirmations.sessions.get other := by
    unfold processExpiredSellerSession
    split
    · rfl
    · simp only
      split
      · split
        · exact looked
        · split
          · split
            · exact looked
            · split
              · exact (markSessionExpiredCancelled_other different).trans looked
              · exact looked
          · exact looked
      · exact looked
  unfold due
  rw [sessions]

theorem length_cut_le (events : List LedgerEvent) : (cut events).length ≤ events.length := by
  unfold cut
  split
  · exact (List.length_drop.trans_le (Nat.sub_le _ _))
  · exact le_rfl

/-- A session is processed within the bound if there is room for the no-show that it owes. -/
theorem process_run (applyCancel : Bool)
    (room : bounded → owes world now sessionId = true → world.books.ledger.events.length < 5000) :
    ∃ entries, (ledgerSystem.restrict (Fits bounded)).Run world.books entries
      (processExpiredSellerSession world now sessionId applyCancel).1.books := by
  rcases @process_books world now sessionId applyCancel with
    ⟨_, same⟩ | ⟨isDue, session, same⟩
  · rw [same]
    exact ⟨[], .nil⟩
  · rw [same]
    apply recordSellerNonConfirm_run
    intro named given unknown bounds
    obtain rfl : Reason.timeout = named := Option.some.inj given
    apply room bounds
    simpa [owes, isDue, orderOf] using unknown

/-- Processing a session adds at most the event that it owes. -/
theorem process_events (applyCancel : Bool) :
    (processExpiredSellerSession world now sessionId applyCancel).1.books.ledger.events =
        world.books.ledger.events ∨
      owes world now sessionId = true ∧ ∃ event,
        (processExpiredSellerSession world now sessionId applyCancel).1.books.ledger.events =
          cut (world.books.ledger.events ++ [event]) := by
  rcases @process_books world now sessionId applyCancel with
    ⟨_, same⟩ | ⟨isDue, session, same⟩
  · exact .inl (by rw [same])
  · rw [same, recordSellerNonConfirm_events]
    by_cases unknown : (world.books.ledger.earlier (orderOf sessionId session).sessionId
        (·.missed .timeout)).isNone
    · rw [if_pos unknown]
      exact .inr ⟨by rw [owes, isDue, Bool.true_and]; exact unknown, _, rfl⟩
    · rw [if_neg unknown]
      exact .inl rfl

/-- What another session owes afterwards, it owed before. -/
theorem owes_of_process (applyCancel : Bool) (different : other ≠ sessionId)
    (room : owes world now sessionId = true → world.books.ledger.events.length < 5000)
    (later :
      owes (processExpiredSellerSession world now sessionId applyCancel).1 now other = true) :
    owes world now other = true := by
  unfold owes at later ⊢
  rw [process_other applyCancel different] at later
  rw [Bool.and_eq_true] at later ⊢
  refine ⟨later.1, ?_⟩
  rcases @process_events world now sessionId applyCancel with
    same | ⟨owing, event, added⟩
  · simpa [Ledger.earlier, same] using later.2
  · have short : ¬5000 < (world.books.ledger.events ++ [event]).length := by
      have := room owing
      simp only [List.length_append, List.length_singleton]
      omega
    rw [cut, if_neg short] at added
    have none := later.2
    unfold Ledger.earlier at none ⊢
    rw [added] at none
    split
    · rfl
    · next named =>
        rw [if_neg named, List.find?_append] at none
        cases found : world.books.ledger.events.find? _ with
        | none => rfl
        | some event => simp [found] at none

/-! ## The sweep -/

/-- The no-shows that the listed sessions owe fit. -/
def Fitting (world : World) (now : Int) (ids : List SessionId) : Prop :=
  ids.countP (owes world now) = 0 ∨
    world.books.ledger.events.length + ids.countP (owes world now) ≤ 5000

theorem Fitting.tail (fitting : Fitting world now (sessionId :: ids)) : Fitting world now ids := by
  have fewer : ids.countP (owes world now) ≤ (sessionId :: ids).countP (owes world now) := by
    rw [List.countP_cons]
    exact Nat.le_add_right _ _
  unfold Fitting at fitting ⊢
  omega

theorem Fitting.room (fitting : Fitting world now (sessionId :: ids))
    (owing : owes world now sessionId = true) : world.books.ledger.events.length < 5000 := by
  unfold Fitting at fitting
  rw [List.countP_cons_of_pos owing] at fitting
  omega

theorem Fitting.expire (fitting : Fitting world now ids) (looked : List SessionId) :
    Fitting { world with confirmations := world.confirmations.expire now looked } now ids := by
  have same : owes { world with confirmations := world.confirmations.expire now looked } now =
      owes world now := by
    funext sessionId
    exact owes_expire looked
  unfold Fitting at fitting ⊢
  rwa [same]

/-- After one session, the others still fit. -/
theorem Fitting.process (fitting : Fitting world now (sessionId :: ids)) (fresh : sessionId ∉ ids) :
    Fitting (processExpiredSellerSession world now sessionId true).1 now ids := by
  have fewer : ids.countP (owes (processExpiredSellerSession world now sessionId true).1 now) ≤
      ids.countP (owes world now) := by
    apply List.countP_mono_left
    intro other member later
    have different : other ≠ sessionId := fun same => fresh (same ▸ member)
    exact owes_of_process true different fitting.room later
  rcases @process_events world now sessionId true with
    same | ⟨owing, event, added⟩
  · have rest := fitting.tail
    unfold Fitting at rest ⊢
    rw [same]
    omega
  · have long := length_cut_le (world.books.ledger.events ++ [event])
    rw [← added, List.length_append, List.length_singleton] at long
    unfold Fitting at fitting ⊢
    rw [List.countP_cons_of_pos owing] at fitting
    omega

/-- The loop of the sweep enters the no-shows one by one. -/
theorem expireEach_run (once : ids.Nodup) (fitting : bounded → Fitting world now ids) :
    ∃ entries, (ledgerSystem.restrict (Fits bounded)).Run world.books entries
      (expireEach now ids world).books := by
  induction ids generalizing world with
  | nil => exact ⟨[], .nil⟩
  | cons sessionId rest ih =>
      obtain ⟨fresh, once⟩ := List.nodup_cons.1 once
      have later := fun bounds => (fitting bounds).tail
      simp only [expireEach]
      split
      · exact ih once later
      · split
        · exact ih once later
        · let looked : World :=
            { world with confirmations := world.confirmations.expire now [sessionId] }
          have fits : bounded → Fitting looked now (sessionId :: rest) :=
            fun bounds => (fitting bounds).expire [sessionId]
          split
          · obtain ⟨entries, run⟩ := @process_run bounded looked now sessionId true
              fun bounds => (fits bounds).room
            split
            · next next recorded result =>
                have same : (processExpiredSellerSession looked now sessionId true).1 = next :=
                  congrArg Prod.fst result
                rw [same] at run
                obtain ⟨more, others⟩ := @ih next once
                  fun bounds => same ▸ (fits bounds).process fresh
                exact ⟨entries ++ more, run.append others⟩
            · next next error result =>
                have same : (processExpiredSellerSession looked now sessionId true).1 = next :=
                  congrArg Prod.fst result
                rw [same] at run
                exact ⟨entries, run⟩
          · exact @ih looked once fun bounds => (fits bounds).tail

theorem pendingSellerAccepts_nodup (world : World) (limit : ℕ) :
    (pendingSellerAccepts world limit).Nodup := by
  have keys := world.confirmations.sessions.nodup
  exact keys.sublist ((List.take_sublist _ _).trans List.filter_sublist |>.map Prod.fst)

/-- A request makes entries in the ledger, within the bound if it is uncut. -/
theorem perform_run {config : OwnerConfirmation.Config} {action : Action} {next : World}
    (performed : perform config world action = some next)
    (uncut : bounded → Uncut world action) :
    ∃ entries, (ledgerSystem.restrict (Fits bounded)).Run world.books entries next.books := by
  cases action with
  | nonConfirm now order reason =>
      obtain rfl := Option.some.inj performed
      apply recordSellerNonConfirm_run
      intro named given unknown bounds
      have room := uncut bounds
      simp only [Uncut, owed, given, unknown] at room
      simp at room
      omega
  | confirm now order =>
      obtain rfl := Option.some.inj performed
      exact recordSellerConfirm_run
  | process now sessionId applyCancel =>
      obtain rfl := Option.some.inj performed
      apply process_run
      intro bounds owing
      have room := uncut bounds
      simp only [Uncut, owed, owing] at room
      simp at room
      omega
  | sweep now limit =>
      obtain rfl := Option.some.inj performed
      have fits : bounded → Fitting world now (pendingSellerAccepts world limit) := uncut
      obtain ⟨entries, run⟩ := expireEach_run (pendingSellerAccepts_nodup world limit)
        fun bounds => (fits bounds).expire _
      exact ⟨entries, run⟩
  | confirmation action =>
      obtain ⟨confirmations, _, rfl⟩ := Option.map_eq_some_iff.1 performed
      exact ⟨[], .nil⟩

end Requests

/-! ## Runs -/

/-- The counters of every seller say what was entered, every session was entered once with each
reason and once as confirmed, and no two events share an identifier. -/
structure Accounted (world : World) : Prop where
  missedOnce : ∀ sessionId ≠ "", ∀ reason, world.books.history.countP (fun event =>
    event.sessionId = some sessionId && event.missed reason) ≤ 1
  confirmedOnce : ∀ sessionId ≠ "", world.books.history.countP (fun event =>
    event.sessionId = some sessionId && event.confirms) ≤ 1
  sellers : ∀ sellerId, Balanced (world.books.ledger.entry sellerId)
    (world.books.history.filter (·.sellerId = sellerId))
  deltas : ∀ event ∈ world.books.history, -maxHit event.sceneId ≤ event.delta ∧ event.delta ≤ 0
  ids : (world.books.history.map LedgerEvent.eventId).Nodup

section Runs

variable {config : OwnerConfirmation.Config} {start world middle : World} {actions : List Action}

/-- Entries never lower a counter and keep the books balanced. -/
theorem entries_balanced {bounded : Prop} {books next : Books} {entries : List Entry}
    (run : (ledgerSystem.restrict (Fits bounded)).Run books entries next) :
    books.Grown next ∧ (books.Balanced → next.Balanced) := by
  induction run with
  | nil => exact ⟨.refl _, id⟩
  | snoc _ step ih =>
      exact ⟨ih.1.trans step.1.grown, fun balanced => step.1.balanced (ih.2 balanced)⟩

theorem entries_distinct {books next : Books} {entries : List Entry}
    (run : (ledgerSystem.restrict (Fits True)).Run books entries next)
    (distinct : books.Distinct) : next.Distinct := by
  induction run with
  | nil => exact distinct
  | snoc _ step ih => exact step.1.distinct ih step.2

/-- In every run, whatever is cut off. -/
theorem run_balanced (run : (system config).Run start actions world) :
    start.books.Grown world.books ∧ (start.books.Balanced → world.books.Balanced) := by
  induction run with
  | nil => exact ⟨.refl _, id⟩
  | snoc _ step ih =>
      obtain ⟨entries, entered⟩ := @perform_run False _ config _ _ step False.elim
      obtain ⟨grown, balanced⟩ := entries_balanced entered
      exact ⟨ih.1.trans grown, balanced ∘ ih.2⟩

theorem run_distinct (run : ((system config).restrict Uncut).Run start actions world)
    (distinct : start.books.Distinct) : world.books.Distinct := by
  induction run with
  | nil => exact distinct
  | snoc _ step ih =>
      obtain ⟨entries, entered⟩ := @perform_run True _ config _ _ step.1 fun _ => step.2
      exact entries_distinct entered ih

theorem initial_balanced : ({} : World).books.Balanced where
  sellers _ := .empty
  deltas event member := by cases member

theorem initial_distinct : ({} : World).books.Distinct where
  whole := rfl
  missedOnce _ _ _ := Nat.zero_le _
  confirmedOnce _ _ := Nat.zero_le _
  numbered := rfl

/-- In every run that cuts off no event, every state is accounted for, and no counter has gone
down since any earlier one. -/
theorem noShows_accounted (initial : (system config).Init start)
    (run : ((system config).restrict Uncut).Run start actions world) :
    Accounted world ∧ ∀ before after middle, actions = before ++ after →
      (system config).Run start before middle → (system config).Run middle after world →
        middle.books.Grown world.books := by
  obtain rfl : start = {} := initial
  have distinct := run_distinct run initial_distinct
  have balanced := (run_balanced run.of_restrict).2 initial_balanced
  refine ⟨⟨distinct.missedOnce, distinct.confirmedOnce, balanced.sellers, balanced.deltas,
    distinct.ids⟩, ?_⟩
  intro before after middle _ _ rest
  exact (run_balanced rest).1

end Runs

namespace Demo

def config : OwnerConfirmation.Config where
  appEnv := "production"
  scenes _ := none
  globalDefaults _ _ := none

/-- A no-show without a session. -/
def anonymous : Order where
  sellerId := "seller"
  sceneId := "food_delivery"

def ordered : Order := { anonymous with sessionId := some "cfm_1" }

def noShow (order : Order) : Action := .nonConfirm 0 order "timeout"

theorem noShows_accounted_once :
    ∃ world, perform config {} (noShow ordered) = some world ∧ Accounted world ∧
      (({} : World).books).Grown world.books := by
  have uncut : Uncut {} (noShow ordered) := .inr (by decide)
  have run : ((system config).restrict Uncut).Run {} [noShow ordered] _ := .single ⟨rfl, uncut⟩
  obtain ⟨accounted, grown⟩ := noShows_accounted rfl run
  exact ⟨_, rfl, accounted, grown [] _ {} rfl .nil run.of_restrict⟩

theorem noShow_ordered_books (books : Books) (order : Order)
    (unknown : books.ledger.earlier order.sessionId (·.missed .timeout) = none) :
    (recordSellerNonConfirm books 0 order "timeout").1.ledger.events =
        cut (books.ledger.events ++ [books.missEvent 0 order .timeout]) ∧
      (recordSellerNonConfirm books 0 order "timeout").1.history =
        books.history ++ [books.missEvent 0 order .timeout] := by
  have named : Reason.named "timeout" = some .timeout := rfl
  rw [recordSellerNonConfirm, named]
  simp only [unknown]
  unfold profiled
  split
  · exact ⟨rfl, rfl⟩
  · exact ⟨openSeller_events, openSeller_history⟩

/-- After a no-show of one session and more without a session. -/
theorem anonymous_run (count : ℕ) (few : count ≤ 4999) :
    ∃ world first rest, (system config).Run {}
        (noShow ordered :: List.replicate count (noShow anonymous)) world ∧
      world.books.history = first :: rest ∧ world.books.ledger.events = first :: rest ∧
      first.sessionId = some "cfm_1" ∧ first.missed .timeout = true ∧ rest.length = count ∧
      ∀ event ∈ rest, event.sessionId = none := by
  induction count with
  | zero =>
      exact ⟨_, _, [], .single rfl, rfl, rfl, rfl, rfl, rfl, by simp⟩
  | succ count ih =>
      obtain ⟨world, first, rest, run, history, events, named, missed, long, none⟩ :=
        ih (Nat.le_of_succ_le few)
      obtain ⟨ledger, whole⟩ := noShow_ordered_books world.books anonymous rfl
      have short : ¬5000 <
          (world.books.ledger.events ++ [world.books.missEvent 0 anonymous .timeout]).length := by
        simp only [events, List.length_append, List.length_cons, List.length_nil, long]
        omega
      rw [cut, if_neg short, events] at ledger
      rw [history] at whole
      let next : World := { world with
        books := (recordSellerNonConfirm world.books 0 anonymous "timeout").1 }
      refine ⟨next, first, rest ++ [world.books.missEvent 0 anonymous .timeout], ?_, whole, ledger,
        named, missed, by simp [long], ?_⟩
      · rw [List.replicate_succ', ← List.cons_append]
        exact run.snoc rfl
      · intro event member
        rcases List.mem_append.1 member with old | new
        · exact none event old
        · rw [List.mem_singleton.1 new]
          rfl

/-- After 5000 more no-shows the session is forgotten, and its timeout is entered again. -/
theorem entered_twice : ∃ world, (system config).Run {}
      (noShow ordered :: List.replicate 5000 (noShow anonymous) ++ [noShow ordered]) world ∧
    ¬Accounted world := by
  obtain ⟨world, first, rest, run, history, events, named, missed, long, none⟩ :=
    anonymous_run 4999 le_rfl
  obtain ⟨ledger, whole⟩ := noShow_ordered_books world.books anonymous rfl
  have full : (world.books.ledger.events ++ [world.books.missEvent 0 anonymous .timeout]).length =
      5001 := by
    simp [events, long]
  have beyond : 5000 < (world.books.ledger.events ++
      [world.books.missEvent 0 anonymous .timeout]).length := by omega
  rw [cut, if_pos beyond, full, events, List.cons_append] at ledger
  let later : World := { world with
    books := (recordSellerNonConfirm world.books 0 anonymous "timeout").1 }
  have forgotten :
      later.books.ledger.earlier ordered.sessionId (·.missed .timeout) = Option.none := by
    have unknown : ∀ event ∈ later.books.ledger.events, event.sessionId = Option.none := by
      intro event member
      rw [ledger] at member
      have kept : event ∈ rest ++ [world.books.missEvent 0 anonymous .timeout] :=
        List.mem_of_mem_drop (i := 1000) member
      rcases List.mem_append.1 kept with old | new
      · exact none event old
      · rw [List.mem_singleton.1 new]
        rfl
    have found : later.books.ledger.events.find? (fun event =>
        event.sessionId = ordered.sessionId && event.missed .timeout) = Option.none := by
      apply List.find?_eq_none.2
      intro event member
      rw [unknown event member]
      exact Bool.false_ne_true
    rw [Ledger.earlier, if_neg (by decide)]
    exact found
  obtain ⟨_, again⟩ := noShow_ordered_books later.books ordered forgotten
  let last : World := { later with
    books := (recordSellerNonConfirm later.books 0 ordered "timeout").1 }
  have forgets : (system config).Step world (noShow anonymous) later := rfl
  have repeats : (system config).Step later (noShow ordered) last := rfl
  have actions : noShow ordered :: List.replicate 5000 (noShow anonymous) =
      noShow ordered :: List.replicate 4999 (noShow anonymous) ++ [noShow anonymous] :=
    congrArg _ List.replicate_succ'
  rw [actions]
  refine ⟨last, (run.snoc forgets).snoc repeats, fun accounted => ?_⟩
  have once := accounted.missedOnce "cfm_1" (by decide) .timeout
  let same := fun event : LedgerEvent =>
    decide (event.sessionId = some "cfm_1") && event.missed .timeout
  have head : same first = true := by simp [same, named, missed]
  have tail : same (later.books.missEvent 0 ordered .timeout) = true := rfl
  rw [again, whole, history, List.countP_append, List.countP_append,
    @List.countP_cons_of_pos _ same _ _ head, @List.countP_cons_of_pos _ same _ _ tail] at once
  omega

end Demo

end TrustChain.AcceptFulfillment
