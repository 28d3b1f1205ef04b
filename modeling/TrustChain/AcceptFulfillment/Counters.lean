import TrustChain.AcceptFulfillment.Ledger

/-!
# What the counters say

The ledger changes by three kinds of entries: a seller is opened, a no-show or a confirmation
is entered that the events do not know of. Whatever the entries, the counters of a seller are
those of its events. As long as no event is cut off, a session is entered once.
-/

namespace TrustChain.AcceptFulfillment

open Library
open OwnerConfirmation (SessionId)
open Delivery (SceneId AgentId orEmpty)

inductive Entry where
  | opened (sellerId : AgentId)
  | missed (now : Int) (order : Order) (reason : Reason)
  | confirmed (now : Int) (order : Order)

inductive Entered (books : Books) : Entry → Books → Prop
  | opened (sellerId : AgentId) : Entered books (.opened sellerId) (books.openSeller sellerId)
  | missed (now : Int) (order : Order) (reason : Reason) :
      books.ledger.earlier order.sessionId (·.missed reason) = none →
      Entered books (.missed now order reason) (books.miss now order reason)
  | confirmed (now : Int) (order : Order) :
      books.ledger.earlier order.sessionId (·.confirms) = none →
      Entered books (.confirmed now order) (books.confirm now order)

def ledgerSystem : TransitionSystem Books Entry where
  Init books := books = {}
  Step := Entered

/-- With `bounded`, a no-show is entered only while no event is cut off. -/
def Fits (bounded : Prop) (books : Books) : Entry → Prop
  | .missed _ _ _ => bounded → books.ledger.events.length < 5000
  | _ => True

/-! ## Counters -/

/-- The counters of a seller are those of its events. -/
structure Balanced (entry : SellerEntry) (own : List LedgerEvent) : Prop where
  nonConfirms : entry.nonConfirmCount = entry.timeoutCount + entry.rejectCount
  scenes : (entry.byScene.total fun _ counts => counts.nonConfirmCount) = entry.nonConfirmCount
  timeouts : entry.timeoutCount = own.countP (·.missed .timeout)
  rejects : entry.rejectCount = own.countP (·.missed .reject)
  confirms : entry.confirmCount = own.countP (·.confirms)
  deltas : entry.reputationDeltaTotal = (own.map LedgerEvent.delta).sum

/-- No counter of the first entry is above that of the second. -/
structure SellerEntry.Below (entry later : SellerEntry) : Prop where
  nonConfirms : entry.nonConfirmCount ≤ later.nonConfirmCount
  timeouts : entry.timeoutCount ≤ later.timeoutCount
  rejects : entry.rejectCount ≤ later.rejectCount
  confirms : entry.confirmCount ≤ later.confirmCount
  scenes : ∀ sceneId, (entry.scene sceneId).nonConfirmCount ≤ (later.scene sceneId).nonConfirmCount ∧
    (entry.scene sceneId).timeoutCount ≤ (later.scene sceneId).timeoutCount ∧
    (entry.scene sceneId).rejectCount ≤ (later.scene sceneId).rejectCount

/-- No counter of any seller has gone down. -/
def Books.Grown (books later : Books) : Prop :=
  ∀ sellerId, (books.ledger.entry sellerId).Below (later.ledger.entry sellerId)

/-- Every seller is balanced, and every delta is within the bound of its scene. -/
structure Books.Balanced (books : Books) : Prop where
  sellers : ∀ sellerId, AcceptFulfillment.Balanced (books.ledger.entry sellerId)
    (books.history.filter (·.sellerId = sellerId))
  deltas : ∀ event ∈ books.history, -maxHit event.sceneId ≤ event.delta ∧ event.delta ≤ 0

section Counters

variable {books next : Books} {entry : SellerEntry} {own : List LedgerEvent} {event : LedgerEvent}
  {now : Int} {sceneId : SceneId} {reason : Reason} {order : Order} {delta : ℚ} {count : ℕ}
  {sellerId : AgentId} {taken : Entry}

@[simp] theorem openSeller_entry :
    (books.openSeller sellerId).ledger.entry = books.ledger.entry := by
  unfold Books.openSeller
  split
  · rfl
  · next absent =>
      funext other
      by_cases same : other = sellerId
      · subst same
        simp [Ledger.entry, absent]
      · simp [Ledger.entry, Table.get_set_of_ne same]

@[simp] theorem openSeller_events :
    (books.openSeller sellerId).ledger.events = books.ledger.events := by
  unfold Books.openSeller
  split <;> rfl

@[simp] theorem openSeller_history :
    (books.openSeller sellerId).history = books.history := by
  unfold Books.openSeller
  split <;> rfl

theorem miss_entry (other : AgentId) : (books.miss now order reason).ledger.entry other =
    if other = order.sellerId then
      (books.ledger.entry order.sellerId).miss now order.sceneId reason
        (reputationDelta order.sceneId reason)
    else books.ledger.entry other := by
  by_cases same : other = order.sellerId
  · subst same
    simp [Books.miss, Ledger.entry]
  · simp [Books.miss, Ledger.entry, Table.get_set_of_ne same, same]

theorem confirm_entry (other : AgentId) : (books.confirm now order).ledger.entry other =
    if other = order.sellerId then (books.ledger.entry order.sellerId).confirm now
    else books.ledger.entry other := by
  by_cases same : other = order.sellerId
  · subst same
    simp [Books.confirm, Ledger.entry]
  · simp [Books.confirm, Ledger.entry, Table.get_set_of_ne same, same]

theorem Balanced.empty : Balanced {} [] where
  nonConfirms := rfl
  scenes := rfl
  timeouts := rfl
  rejects := rfl
  confirms := rfl
  deltas := rfl

theorem Balanced.miss (balanced : Balanced entry own)
    (outcome : event.outcome = .nonConfirm reason delta count) :
    Balanced (entry.miss now sceneId reason delta) (own ++ [event]) where
  nonConfirms := by
    have sum := balanced.nonConfirms
    cases reason <;> simp [SellerEntry.miss, sum] <;> omega
  scenes := by
    have exchanged := Table.total_set entry.byScene sceneId ((entry.scene sceneId).miss reason)
      fun _ counts => counts.nonConfirmCount
    have before : (entry.byScene.get sceneId).elim 0 (fun counts => counts.nonConfirmCount) =
        (entry.scene sceneId).nonConfirmCount := by
      cases found : entry.byScene.get sceneId <;> simp [SellerEntry.scene, found]
    have after : ((entry.scene sceneId).miss reason).nonConfirmCount =
        (entry.scene sceneId).nonConfirmCount + 1 := rfl
    have sum := balanced.scenes
    simp only [before, after] at exchanged
    simp only [SellerEntry.miss]
    omega
  timeouts := by
    rw [List.countP_append, ← balanced.timeouts]
    cases reason <;> simp [SellerEntry.miss, LedgerEvent.missed, outcome]
  rejects := by
    rw [List.countP_append, ← balanced.rejects]
    cases reason <;> simp [SellerEntry.miss, LedgerEvent.missed, outcome]
  confirms := by
    rw [List.countP_append, ← balanced.confirms]
    simp [SellerEntry.miss, LedgerEvent.confirms, outcome]
  deltas := by
    rw [List.map_append, List.sum_append, ← balanced.deltas]
    simp [SellerEntry.miss, LedgerEvent.delta, outcome]

theorem Balanced.confirm (balanced : Balanced entry own) (outcome : event.outcome = .confirmed) :
    Balanced (entry.confirm now) (own ++ [event]) where
  nonConfirms := balanced.nonConfirms
  scenes := balanced.scenes
  timeouts := by
    rw [List.countP_append, ← balanced.timeouts]
    simp [LedgerEvent.missed, outcome, SellerEntry.confirm]
  rejects := by
    rw [List.countP_append, ← balanced.rejects]
    simp [LedgerEvent.missed, outcome, SellerEntry.confirm]
  confirms := by
    rw [List.countP_append, ← balanced.confirms]
    simp [LedgerEvent.confirms, outcome, SellerEntry.confirm]
  deltas := by
    rw [List.map_append, List.sum_append, ← balanced.deltas]
    simp [LedgerEvent.delta, outcome, SellerEntry.confirm]

/-- One more event of a seller, counted in its entry. -/
theorem Books.Balanced.append {changed : SellerEntry} (balanced : books.Balanced)
    (history : next.history = books.history ++ [event])
    (entries : ∀ other, next.ledger.entry other =
      if other = event.sellerId then changed else books.ledger.entry other)
    (counted : AcceptFulfillment.Balanced changed
      (books.history.filter (·.sellerId = event.sellerId) ++ [event]))
    (bounded : -maxHit event.sceneId ≤ event.delta ∧ event.delta ≤ 0) : next.Balanced := by
  constructor
  · intro sellerId
    rw [entries, history, List.filter_append]
    by_cases same : sellerId = event.sellerId
    · subst same
      simpa using counted
    · simpa [same, Ne.symm same] using balanced.sellers sellerId
  · intro other member
    rw [history] at member
    rcases List.mem_append.1 member with old | new
    · exact balanced.deltas other old
    · rw [List.mem_singleton.1 new]
      exact bounded

/-- One entry keeps the books balanced. -/
theorem Entered.balanced (entered : Entered books taken next) (balanced : books.Balanced) :
    next.Balanced := by
  cases entered with
  | opened sellerId =>
      exact ⟨by simpa using balanced.sellers, by simpa using balanced.deltas⟩
  | missed now order reason _ =>
      apply balanced.append rfl miss_entry
      · exact (balanced.sellers order.sellerId).miss rfl
      · exact reputationDelta_mem order.sceneId reason
  | confirmed now order _ =>
      apply balanced.append rfl confirm_entry
      · exact (balanced.sellers order.sellerId).confirm rfl
      · rw [maxHit_eq]
        exact ⟨show (-5 : ℚ) ≤ 0 by decide, le_rfl⟩

theorem SellerEntry.Below.refl (entry : SellerEntry) : entry.Below entry where
  nonConfirms := le_rfl
  timeouts := le_rfl
  rejects := le_rfl
  confirms := le_rfl
  scenes _ := ⟨le_rfl, le_rfl, le_rfl⟩

theorem SellerEntry.Below.trans {first second third : SellerEntry} (below : first.Below second)
    (above : second.Below third) : first.Below third where
  nonConfirms := below.nonConfirms.trans above.nonConfirms
  timeouts := below.timeouts.trans above.timeouts
  rejects := below.rejects.trans above.rejects
  confirms := below.confirms.trans above.confirms
  scenes sceneId := ⟨(below.scenes sceneId).1.trans (above.scenes sceneId).1,
    (below.scenes sceneId).2.1.trans (above.scenes sceneId).2.1,
    (below.scenes sceneId).2.2.trans (above.scenes sceneId).2.2⟩

theorem SellerEntry.below_miss (entry : SellerEntry) :
    entry.Below (entry.miss now sceneId reason delta) where
  nonConfirms := Nat.le_succ _
  timeouts := Nat.le_add_right _ _
  rejects := Nat.le_add_right _ _
  confirms := le_rfl
  scenes other := by
    by_cases same : other = sceneId
    · subst same
      simp [SellerEntry.miss, SellerEntry.scene, SceneCounts.miss]
    · simp [SellerEntry.miss, SellerEntry.scene, Table.get_set_of_ne same]

theorem SellerEntry.below_confirm (entry : SellerEntry) : entry.Below (entry.confirm now) where
  nonConfirms := le_rfl
  timeouts := le_rfl
  rejects := le_rfl
  confirms := Nat.le_succ _
  scenes _ := ⟨le_rfl, le_rfl, le_rfl⟩

theorem Books.Grown.refl (books : Books) : books.Grown books := fun _ => .refl _

theorem Books.Grown.trans {first second third : Books} (grown : first.Grown second)
    (more : second.Grown third) : first.Grown third :=
  fun sellerId => (grown sellerId).trans (more sellerId)

theorem Entered.grown (entered : Entered books taken next) : books.Grown next := by
  intro sellerId
  cases entered with
  | opened _ =>
      rw [openSeller_entry]
      exact .refl _
  | missed now order reason _ =>
      rw [miss_entry]
      split
      · next same => exact same ▸ SellerEntry.below_miss _
      · exact .refl _
  | confirmed now order _ =>
      rw [confirm_entry]
      split
      · next same => exact same ▸ SellerEntry.below_confirm _
      · exact .refl _

end Counters

/-! ## Every session once -/

/-- As long as nothing was cut off: the events are all there, a session is entered at most once
with each reason and once as confirmed, and the events are numbered. -/
structure Books.Distinct (books : Books) : Prop where
  whole : books.ledger.events = books.history
  missedOnce : ∀ sessionId ≠ "", ∀ reason, books.history.countP (fun event =>
    event.sessionId = some sessionId && event.missed reason) ≤ 1
  confirmedOnce : ∀ sessionId ≠ "", books.history.countP (fun event =>
    event.sessionId = some sessionId && event.confirms) ≤ 1
  numbered : books.history.map LedgerEvent.eventId =
    (List.range books.history.length).map fun place => eventId (place + 1)

theorem eventId_injective : Function.Injective eventId := by
  intro number other same
  have texts := String.ofList_injective ((String.append_right_inj _).1 same)
  have read : ∀ count number, Nat.ofDigitChars 10
      (List.replicate count '0' ++ Nat.toDigits 10 number) 0 = number := by
    intro count number
    rw [Nat.ofDigitChars_append, Nat.ofDigitChars_replicate_zero, Nat.mul_zero,
      Nat.ofDigitChars_ten_toDigits]
  rw [← read (6 - (Nat.toDigits 10 number).length) number, texts, read]

section Sessions

variable {books next : Books} {order : Order} {kind : LedgerEvent → Bool} {event : LedgerEvent}
  {taken : Entry}

/-- A new event of a kind that its session has not had yet. -/
theorem once_append {history : List LedgerEvent} {sessionId : SessionId} (named : sessionId ≠ "")
    (once : history.countP (fun event => event.sessionId = some sessionId && kind event) ≤ 1)
    (fresh : kind event → books.ledger.earlier event.sessionId kind = none)
    (whole : books.ledger.events = history) :
    (history ++ [event]).countP (fun event => event.sessionId = some sessionId && kind event) ≤ 1 := by
  rw [List.countP_append, List.countP_singleton]
  split
  · next matched =>
      obtain ⟨same, matched⟩ : event.sessionId = some sessionId ∧ kind event = true := by
        simpa using matched
      have unknown := fresh matched
      rw [same, Ledger.earlier, orEmpty, Option.getD_some, if_neg named, whole] at unknown
      have none := List.countP_eq_zero.2 (List.find?_eq_none.1 unknown)
      omega
  · exact once

theorem Entered.distinct (entered : Entered books taken next) (distinct : books.Distinct)
    (fits : Fits True books taken) : next.Distinct := by
  have numbers : ∀ event : LedgerEvent,
      event.eventId = eventId (books.ledger.events.length + 1) →
      (books.history ++ [event]).map LedgerEvent.eventId =
        (List.range (books.history ++ [event]).length).map fun place => eventId (place + 1) := by
    intro event named
    rw [List.length_append, List.length_singleton, List.range_succ, List.map_append,
      List.map_append, distinct.numbered, List.map_singleton, List.map_singleton, named,
      distinct.whole]
  cases entered with
  | opened sellerId =>
      exact ⟨by simpa using distinct.whole, by simpa using distinct.missedOnce,
        by simpa using distinct.confirmedOnce, by simpa using distinct.numbered⟩
  | missed now order reason unknown =>
      have room := fits trivial
      refine ⟨?_, ?_, ?_, numbers _ rfl⟩
      · have short : ¬5000 < (books.ledger.events ++ [books.missEvent now order reason]).length := by
          simp only [List.length_append, List.length_singleton]
          omega
        rw [Books.miss, cut, if_neg short, distinct.whole]
      · intro sessionId named given
        apply once_append named (distinct.missedOnce sessionId named given) _ distinct.whole
        intro matched
        obtain rfl : reason = given := of_decide_eq_true matched
        exact unknown
      · intro sessionId named
        apply once_append named (distinct.confirmedOnce sessionId named) _ distinct.whole
        intro matched
        cases matched
  | confirmed now order unknown =>
      refine ⟨?_, ?_, ?_, numbers _ rfl⟩
      · rw [Books.confirm, distinct.whole]
      · intro sessionId named given
        apply once_append named (distinct.missedOnce sessionId named given) _ distinct.whole
        intro matched
        cases matched
      · intro sessionId named
        apply once_append named (distinct.confirmedOnce sessionId named) _ distinct.whole
        intro _
        exact unknown

theorem Books.Distinct.ids (distinct : books.Distinct) :
    (books.history.map LedgerEvent.eventId).Nodup := by
  rw [distinct.numbered]
  refine List.Nodup.map (fun first second same => ?_) List.nodup_range
  have numbers := eventId_injective same
  omega

end Sessions

end TrustChain.AcceptFulfillment
