import TrustChain.Commerce.System

/-!
# The life of an order

An order that is settled or refunded stays so, and what is settled was locked for the same
amount, delivered and verified in this order, in the runs in which nobody signs, quotes or
verifies an order that is settled or refunded, and no offer changes the amount of an order with
evidence. Nothing in the operations themselves keeps anybody from it.
-/

namespace TrustChain.Commerce

open Library

/-- The end states of an order. -/
def finished : List OrderStatus := [.settled, .refunded]

/-- The order has evidence that Python takes for true. -/
def MiniAppOrder.HasEvidence (order : MiniAppOrder) : Prop := order.evidence.getD [] ≠ []

/-- The requests that respect what is finished and what is delivered. -/
def Tidy (print : Value → String) (world : World) : Action → Prop
  | .attachOffer _ orderId offer _ _ => ∀ order, world.orders orderId = some order →
      order.status ∉ finished ∧ (order.HasEvidence →
        (offer.get "amount_usdc").isNone = false →
          (offer.get "amount_usdc").str print = order.terms.amountUsdc)
  | .signOrder _ orderId role _ => ∀ order, world.orders orderId = some order →
      order.completes role.value = true → order.status ∉ finished
  | .verificationRuns _ orderId riskFlags _ => ∀ order, world.orders orderId = some order →
      passes print world orderId order riskFlags = true → order.status ∉ finished
  | _ => True

/-- The same of an operation. -/
def Operation.Tidy (print : Value → String) (order : MiniAppOrder) : Operation → Prop
  | .attachOffer offer _ _ => order.status ∉ finished ∧ (order.HasEvidence →
      (offer.get "amount_usdc").isNone = false →
        (offer.get "amount_usdc").str print = order.terms.amountUsdc)
  | .sign role _ => order.completes role.value = true → order.status ∉ finished
  | .markVerified _ => order.HasEvidence ∧ order.status ∉ finished
  | _ => True

/-- An entry of the history under the amount that the order has now. -/
def MiniAppOrder.Noted (order : MiniAppOrder) (note : String) (entry : HistoryEntry) : Prop :=
  entry.note = note ∧ (note = "locked" → entry.terms.amountUsdc = order.terms.amountUsdc)

/-- Entries with these notes stand in the history in this order. -/
def MiniAppOrder.Went (order : MiniAppOrder) (notes : List String) : Prop :=
  ∃ entries, List.Forall₂ order.Noted notes entries ∧ entries.Sublist order.history

/-- How an order gets to where it is. -/
structure Orderly (order : MiniAppOrder) : Prop where
  locked : order.status ∈ [.locked, .executed, .evidenceSubmitted] → order.Went ["locked"]
  evidenced : order.HasEvidence → order.Went ["locked", "evidence_submitted"]
  verified : order.status ∈ [.verified, .settled] →
    order.Went ["locked", "evidence_submitted", "verified"]

section Proofs

variable {print : Value → String} {world : World} {now : Int} {orderId : OrderId}
  {order next : MiniAppOrder} {note : String} {notes : List String} {recorded : Option Dict}

theorem MiniAppOrder.Noted.touch {other : String} {entry : HistoryEntry}
    (noted : order.Noted other entry) (same : next.terms.amountUsdc = order.terms.amountUsdc) :
    (next.touch now note recorded).Noted other entry :=
  ⟨noted.1, fun lock => (noted.2 lock).trans same.symm⟩

/-- What an order went through, it still went through under the same amount. -/
theorem MiniAppOrder.Went.touch (went : order.Went notes)
    (same : next.terms.amountUsdc = order.terms.amountUsdc)
    (history : next.history = order.history) : (next.touch now note recorded).Went notes := by
  obtain ⟨entries, noted, sublist⟩ := went
  refine ⟨entries, noted.imp fun _ _ noted => noted.touch same, ?_⟩
  rw [MiniAppOrder.touch_history, history]
  exact sublist.trans (List.sublist_append_left _ _)

/-- The entry of an operation comes after all others. -/
theorem MiniAppOrder.Went.then (went : order.Went notes)
    (same : next.terms.amountUsdc = order.terms.amountUsdc)
    (history : next.history = order.history) :
    (next.touch now note recorded).Went (notes ++ [note]) := by
  obtain ⟨entries, noted, sublist⟩ := went
  refine ⟨entries ++ [⟨now, next.status, note, next.terms, recorded⟩], ?_, ?_⟩
  · have last : (next.touch now note recorded).Noted note
        ⟨now, next.status, note, next.terms, recorded⟩ := ⟨rfl, fun _ => rfl⟩
    exact List.rel_append (noted.imp fun _ _ noted => noted.touch same) (.cons last .nil)
  · rw [touch_history, history]
    exact sublist.append (List.Sublist.refl _)

theorem orderly_of_new (fresh : order.evidence = none)
    (early : order.status ∉ [.locked, .executed, .evidenceSubmitted, .verified, .settled]) :
    Orderly order := by
  simp only [List.mem_cons, List.not_mem_nil, or_false, not_or] at early
  refine ⟨fun locked => ?_, fun evidence => ?_, fun verified => ?_⟩
  · simp [early] at locked
  · simp [MiniAppOrder.HasEvidence, fresh] at evidence
  · simp [early] at verified

/-- An entry that changes nothing that counts. -/
theorem Orderly.touch (orderly : Orderly order)
    (same : next.terms.amountUsdc = order.terms.amountUsdc)
    (history : next.history = order.history) (evidence : next.evidence = order.evidence)
    (status : next.status = order.status) : Orderly (next.touch now note recorded) where
  locked lock := by
    rw [MiniAppOrder.touch_status, status] at lock
    exact (orderly.locked lock).touch same history
  evidenced present := by
    unfold MiniAppOrder.HasEvidence at present
    rw [MiniAppOrder.touch_evidence, evidence] at present
    exact (orderly.evidenced present).touch same history
  verified done := by
    rw [MiniAppOrder.touch_status, status] at done
    exact (orderly.verified done).touch same history

/-- Evidence for what is locked. -/
theorem orderly_of_evidence (went : order.Went ["locked"])
    (same : next.terms.amountUsdc = order.terms.amountUsdc)
    (history : next.history = order.history) (submitted : next.status = .evidenceSubmitted) :
    Orderly (next.touch now "evidence_submitted" recorded) where
  locked _ := went.touch same history
  evidenced _ := went.then same history
  verified done := by simp [submitted] at done

/-- An entry under a status of which nothing is asked. -/
theorem Orderly.leave (orderly : Orderly order)
    (same : order.HasEvidence → next.terms.amountUsdc = order.terms.amountUsdc)
    (history : next.history = order.history) (evidence : next.evidence = order.evidence)
    (early : next.status ∉ [.locked, .executed, .evidenceSubmitted, .verified, .settled]) :
    Orderly (next.touch now note recorded) := by
  simp only [List.mem_cons, List.not_mem_nil, or_false, not_or] at early
  refine ⟨fun locked => ?_, fun present => ?_, fun verified => ?_⟩
  · simp [early] at locked
  · unfold MiniAppOrder.HasEvidence at present
    rw [MiniAppOrder.touch_evidence, evidence] at present
    exact (orderly.evidenced present).touch (same present) history
  · simp [early] at verified

theorem status_getD {outcome : Except OrderError MiniAppOrder}
    (same : ∀ next, outcome = .ok next → next.status = order.status) :
    (outcome.toOption.getD order).status = order.status :=
  @kept_getD order (fun changed => changed.status = order.status) outcome rfl same

/-- A finished order stays where it is. -/
theorem Operation.Tidy.finished {operation : Operation} (tidy : operation.Tidy print order)
    (finish : order.status ∈ finished) :
    (operation.apply print now order).status = order.status := by
  have ended : order.status = .settled ∨ order.status = .refunded := by
    simpa [TrustChain.Commerce.finished] using finish
  cases operation with
  | attachOffer => exact absurd finish tidy.1
  | sign role signature =>
      simp only [Operation.apply, MiniAppOrder.sign]
      split
      case isTrue completed => exact absurd finish (tidy completed)
      case isFalse => rfl
  | applyPolicy policy =>
      have invalid : order.status ∉ [.signed, .quoted, .policyChecked] := by
        rcases ended with is | is <;> simp [is]
      simp [Operation.apply, MiniAppOrder.applyPolicy, invalid]
  | markVerified => exact absurd finish tidy.2
  | markDisputed =>
      simp only [Operation.apply, MiniAppOrder.markDisputed]
      split <;> rfl
  | restoreFulfillment =>
      simp only [Operation.apply, MiniAppOrder.restoreFulfillment]
      split <;> rfl
  | markRefunded =>
      refine status_getD fun next ran => ?_
      simp only [MiniAppOrder.markRefunded, require_bind_eq_ok] at ran
      obtain ⟨unsettled, is⟩ := ran
      obtain rfl := Except.ok.inj is
      exact (ended.resolve_left unsettled).symm
  | accept | startProcessing | deliver | markLocked | submitEvidence | markSettled =>
      refine status_getD fun next ran => ?_
      simp only [MiniAppOrder.accept, MiniAppOrder.startProcessing, MiniAppOrder.deliver,
        MiniAppOrder.markLocked, MiniAppOrder.submitEvidence, MiniAppOrder.markSettled,
        require_bind_eq_ok] at ran
      rcases ended with is | is <;> simp [is] at ran

theorem Orderly.apply (orderly : Orderly order) (operation : Operation)
    (tidy : operation.Tidy print order) : Orderly (operation.apply print now order) := by
  cases operation with
  | attachOffer offer sellerIdentityId sellerWallet =>
      refine orderly.leave (fun evidence => ?_) rfl rfl (by simp)
      simp only []
      split
      · rfl
      · rename_i given
        exact tidy.2 evidence (Bool.eq_false_of_not_eq_true given)
  | sign role signature =>
      simp only [Operation.apply, MiniAppOrder.sign]
      split
      · exact orderly.leave (fun _ => rfl) rfl rfl (by simp)
      · exact orderly.touch rfl rfl rfl rfl
  | accept | startProcessing =>
      refine kept_require_two orderly fun _ _ => ?_
      exact orderly.touch rfl rfl rfl rfl
  | deliver evidence =>
      refine kept_require_two orderly fun locked _ => ?_
      have went := orderly.locked (by simp [locked])
      have submitted : Orderly (MiniAppOrder.touch { order with
          evidence := some evidence
          status := .evidenceSubmitted
          fulfillmentStatus := .delivered } now "evidence_submitted") :=
        orderly_of_evidence went rfl rfl rfl
      exact submitted.touch rfl rfl rfl rfl
  | applyPolicy policy =>
      have outcome := order.applyPolicy_outcome now policy
      simp only [Operation.apply]
      generalize order.applyPolicy now policy = result at outcome
      cases outcome with
      | raised => exact orderly
      | rejected => exact orderly.leave (fun _ => rfl) rfl rfl (by simp)
      | checked => exact orderly.leave (fun _ => rfl) rfl rfl (by simp)
  | markLocked bindingId =>
      refine kept_require orderly fun _ => ?_
      have nothing : order.Went [] := ⟨[], .nil, List.nil_sublist _⟩
      refine ⟨fun _ => nothing.then rfl rfl, fun present => ?_, fun verified => ?_⟩
      · exact (orderly.evidenced present).touch rfl rfl
      · simp at verified
  | submitEvidence evidence =>
      refine kept_require orderly fun locked => ?_
      exact orderly_of_evidence (orderly.locked (by simpa using locked)) rfl rfl rfl
  | markVerified runId =>
      have went := orderly.evidenced tidy.1
      refine ⟨fun locked => ?_, fun _ => went.touch rfl rfl, fun _ => went.then rfl rfl⟩
      simp [Operation.apply, MiniAppOrder.markVerified] at locked
  | markSettled =>
      refine kept_require orderly fun verified => ?_
      have went := orderly.verified (by simp [verified])
      refine ⟨fun locked => ?_, fun present => ?_, fun _ => went.touch rfl rfl⟩
      · simp at locked
      · exact (orderly.evidenced present).touch rfl rfl
  | markRefunded =>
      refine kept_require orderly fun _ => ?_
      exact orderly.leave (fun _ => rfl) rfl rfl (by simp)
  | markDisputed | restoreFulfillment =>
      simp only [Operation.apply, MiniAppOrder.markDisputed, MiniAppOrder.restoreFulfillment]
      split
      · exact orderly
      · exact orderly.touch rfl rfl rfl rfl

/-- Each of the operations is tidy when its turn comes. -/
def TidyAll (print : Value → String) (now : Int) (order : MiniAppOrder) : List Operation → Prop
  | [] => True
  | operation :: rest =>
      operation.Tidy print order ∧ TidyAll print now (operation.apply print now order) rest

/-- A tidy request applies tidy operations. -/
theorem Tidy.operations {action : Action} (tidy : Tidy print world action)
    (there : world.orders orderId = some order) :
    TidyAll print action.now order (operations print world orderId order action) := by
  cases action with
  | attachOffer | signOrder =>
      simp only [Commerce.operations]
      split
      case isTrue same => exact ⟨tidy order (same ▸ there), trivial⟩
      case isFalse => trivial
  | verificationRuns now subject riskFlags runId =>
      simp only [Commerce.operations]
      split
      case isTrue passed =>
        obtain ⟨rfl, passed⟩ := passed
        have present : order.HasEvidence := by
          simp only [passes, Bool.and_eq_true, decide_eq_true_eq] at passed
          exact passed.1
        exact ⟨⟨present, tidy order there passed⟩, trivial⟩
      case isFalse => trivial
  | settlementLock now subject bindingId policy =>
      simp only [Commerce.operations]
      split
      · split
        · exact ⟨trivial, trivial, trivial⟩
        · exact ⟨trivial, trivial⟩
      · trivial
  | resolveDispute now arbitrator disputeId resolution =>
      simp only [Commerce.operations]
      split
      · split
        · exact ⟨trivial, trivial⟩
        · exact ⟨trivial, trivial⟩
      · trivial
  | createOrder => trivial
  | riskAssess => trivial
  | acceptOrder | startOrder | deliverOrder | policyCheck | submitEvidence | settlementFinalize
  | openDispute | sweep =>
      simp only [Commerce.operations]
      split
      · exact ⟨trivial, trivial⟩
      · trivial

/-- What tidy operations preserve, a tidy list of them does. -/
theorem TidyAll.kept (property : MiniAppOrder → Prop) {operations : List Operation}
    (kept : ∀ order operation, operation.Tidy print order → property order →
      property (Operation.apply print now order operation))
    (tidy : TidyAll print now order operations) (holds : property order) :
    property (operations.foldl (fun order operation => operation.apply print now order) order) := by
  induction operations generalizing order with
  | nil => exact holds
  | cons operation rest ih => exact ih tidy.2 (kept order operation tidy.1 holds)

/-- In the runs of tidy requests every order is orderly. -/
theorem orderly_of_reachable
    (reachable : ((system print).restrict (Tidy print)).Reachable world)
    (there : world.orders orderId = some order) : Orderly order := by
  refine order_invariant ?_ ?_ ?_ reachable there
  · intro now buyerIdentityId intent buyerWallet
    exact orderly_of_new rfl (by simp [MiniAppOrder.create])
  · intro order now offer sellerIdentityId sellerWallet orderly none draft
    refine orderly.apply (.attachOffer offer sellerIdentityId sellerWallet) ⟨?_, ?_⟩
    · simp [finished, draft]
    · simp [MiniAppOrder.HasEvidence, none]
  · intro world orderId order action tidy there orderly
    exact (tidy.operations there).kept Orderly (fun _ _ tidy orderly => orderly.apply _ tidy) orderly

/-- In such a run a finished order stays where it is. -/
theorem finished_stays {start : World} {actions : List Action} {earlier : MiniAppOrder}
    (run : ((system print).restrict (Tidy print)).Run start actions world)
    (before : start.orders orderId = some earlier) (finish : earlier.status ∈ finished) :
    ∃ order, world.orders orderId = some order ∧ order.status = earlier.status := by
  induction run with
  | nil => exact ⟨earlier, before, rfl⟩
  | snoc _ step ih =>
      obtain ⟨order, there, same⟩ := ih
      refine ⟨_, orders_step step.1 there, ?_⟩
      refine (step.2.operations there).kept (fun order => order.status = earlier.status)
        (fun order operation tidy same => ?_) same
      exact (tidy.finished (same ▸ finish)).trans same

/-- In the runs in which nobody signs, quotes or verifies a finished order, and no offer changes
the amount of an order with evidence, an order that is settled was locked for the same amount,
then delivered, then verified; and what is settled or refunded stays so. -/
theorem order_lifecycle {actions : List Action}
    (run : ((system print).restrict (Tidy print)).Run {} actions world)
    (there : world.orders orderId = some order) :
    (order.status = .settled → order.Went ["locked", "evidence_submitted", "verified"]) ∧
    ∀ before after middle earlier, actions = before ++ after →
      ((system print).restrict (Tidy print)).Run {} before middle →
      ((system print).restrict (Tidy print)).Run middle after world →
      middle.orders orderId = some earlier → earlier.status ∈ finished →
      order.status = earlier.status := by
  constructor
  · intro settled
    exact (orderly_of_reachable ⟨{}, actions, rfl, run⟩ there).verified (by simp [settled])
  · intro before after middle earlier _ _ later here finish
    obtain ⟨last, found, same⟩ := finished_stays later here finish
    obtain rfl := Option.some.inj (there.symm.trans found)
    exact same

end Proofs

namespace Demo

def delivered : Scene :=
  locked.next (.submitEvidence 4 "o" [("proof_hash", .text "p")]) (by decide +kernel)

def verified : Scene := delivered.next (.verificationRuns 5 "o" [] "v") (by decide +kernel)

/-- The order is settled. -/
def settled : Scene := verified.next (.settlementFinalize 6 "o") (by decide +kernel)

/-- Both sides sign the settled order, somebody opens a dispute and the arbitrator refunds. -/
def refunded : Scene where
  actions := settled.actions ++ [.signOrder 7 "o" .buyer "x", .signOrder 8 "o" .seller "y",
    .openDispute 9 "o" "d" "b" "late", .resolveDispute 10 true "d" [("action", .text "refund")]]
  possible := by decide +kernel

def status (scene : Scene) : Option OrderStatus := (scene.world.orders "o").map (·.status)

def settledOrder : MiniAppOrder := (settled.world.orders "o").get (by decide +kernel)

theorem settled_orders : settled.world.orders "o" = some settledOrder := (Option.some_get _).symm

end Demo

/-- A settled order is signed again by both sides, and then refunded. -/
theorem refunded_after_settled :
    (system Demo.print).Run {} Demo.settled.actions Demo.settled.world ∧
    Demo.status Demo.settled = some .settled ∧
    Demo.settled.actions <+: Demo.refunded.actions ∧
    (system Demo.print).Run {} Demo.refunded.actions Demo.refunded.world ∧
    Demo.status Demo.refunded = some .refunded :=
  ⟨Demo.settled.run, by decide +kernel, List.prefix_append _ _, Demo.refunded.run,
    by decide +kernel⟩

theorem order_lifecycle_settled :
    Demo.settledOrder.Went ["locked", "evidence_submitted", "verified"] := by
  have tidy : ((system Demo.print).restrict (Tidy Demo.print)).Run {} Demo.settled.actions
      Demo.settled.world := by
    refine .snoc (.snoc (.snoc (Demo.locked.run.restrict ?_) ⟨Demo.locked.step _ _, trivial⟩)
      ⟨Demo.delivered.step _ _, ?_⟩) ⟨Demo.verified.step _ _, trivial⟩
    · intro action member state
      simp only [Demo.locked, Demo.checked, Demo.quoted, Library.Scene.next, List.cons_append,
        List.nil_append, List.mem_cons, List.not_mem_nil, or_false] at member
      rcases member with rfl | rfl | rfl <;> trivial
    · intro order there _
      have status : Demo.status Demo.delivered = some .evidenceSubmitted := by decide +kernel
      have delivered : Demo.delivered.world.orders "o" = some order := there
      rw [Demo.status, delivered, Option.map_some, Option.some.injEq] at status
      simp [finished, status]
  exact (order_lifecycle tidy Demo.settled_orders).1 (by decide +kernel)

end TrustChain.Commerce
