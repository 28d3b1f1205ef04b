import TrustChain.Commerce.System

/-!
# Locked terms

Whatever is locked has passed a policy check on its very terms, since an offer that changes them
takes the order back. Nothing asks for the signatures of the two sides: an order whose offer
lies within the limits of the policy is locked without them.
-/

namespace TrustChain.Commerce

open Library

/-- A limit as a policy check reads it: the number that the policy has for it, and the default for
what Python takes for false. -/
def ReadAs (policy : Dict) (key : String) (default number : Double) : Prop :=
  if (policy.get key).truthy then (policy.get key).toFloat = some number else number = default

/-- The amount lies within the limits of the policy. -/
def Within (policy : Dict) (order : MiniAppOrder) : Prop :=
  ∃ amount single daily spent, order.amount = some amount ∧
    ReadAs policy "single_limit_usdc" (.finite (10 ^ 18)) single ∧
    ReadAs policy "daily_limit_usdc" (.finite (10 ^ 18)) daily ∧
    ReadAs policy "spent_today_usdc" (.finite 0) spent ∧
    (amount ≠ .nan → single ≠ .nan → amount.le single = true) ∧
    (spent.add amount ≠ .nan → daily ≠ .nan → (spent.add amount).le daily = true)

/-- The order has passed a policy check since the last change of its terms. -/
def Checked (order : MiniAppOrder) : Prop :=
  ∃ earlier check later policy, order.history = earlier ++ check :: later ∧
    check.note = "policy_ok" ∧ check.policy = some policy ∧
    (∀ entry ∈ check :: later, entry.terms = order.terms) ∧ Within policy order

/-- What is ready to be locked, or locked, has been checked; what is signed has the signatures of
both sides. -/
structure Backed (order : MiniAppOrder) : Prop where
  checked : order.status = .policyChecked ∨ order.status = .locked → Checked order
  signed : order.status = .signed → "buyer" ∈ order.signatures.map Prod.fst ∧
    "seller" ∈ order.signatures.map Prod.fst

section Proofs

variable {print : Value → String} {world : World} {now : Int} {orderId : OrderId}
  {order next : MiniAppOrder} {note : String} {recorded : Option Dict}

theorem readAs_of_numberOr {policy : Dict} {key : String} {default number : Double}
    (read : numberOr (policy.get key) default = some number) : ReadAs policy key default number := by
  unfold numberOr Value.orElse at read
  unfold ReadAs
  split at read
  case isTrue truthy => rwa [if_pos truthy]
  case isFalse falsy =>
    rw [if_neg falsy]
    exact (Option.some.inj read).symm

theorem within_of_compared {policy : Dict} {amount single daily spent : Double}
    (amountIs : order.amount = some amount) (singleIs : singleLimit policy = some single)
    (dailyIs : dailyLimit policy = some daily) (spentIs : spentToday policy = some spent)
    (withinSingle : single.lt amount = false) (withinDaily : daily.lt (spent.add amount) = false) :
    Within policy order :=
  ⟨amount, single, daily, spent, amountIs, readAs_of_numberOr singleIs, readAs_of_numberOr dailyIs,
    readAs_of_numberOr spentIs,
    fun number limit => Double.le_of_not_lt number limit withinSingle,
    fun number limit => Double.le_of_not_lt number limit withinDaily⟩

/-- An entry under the same terms leaves an order checked. -/
theorem Checked.touch (checked : Checked order) (same : next.terms = order.terms)
    (history : next.history = order.history) : Checked (next.touch now note recorded) := by
  obtain ⟨earlier, check, later, policy, entries, noted, checkPolicy, terms, within⟩ := checked
  refine ⟨earlier, check, later ++ [⟨now, next.status, note, next.terms, recorded⟩], policy, ?_, noted,
    checkPolicy, ?_, ?_⟩
  · simp [MiniAppOrder.touch, history, entries]
  · intro entry member
    rw [← List.cons_append, List.mem_append, List.mem_singleton] at member
    rcases member with earlierEntry | rfl
    · exact (terms entry earlierEntry).trans same.symm
    · rfl
  · unfold Within MiniAppOrder.amount MiniAppOrder.touch
    rw [same]
    exact within

/-- An entry under the same terms and the same status keeps what backs the order. -/
theorem Backed.touch (backed : Backed order) (same : next.terms = order.terms)
    (history : next.history = order.history) (status : next.status = order.status)
    (signatures : next.signatures = order.signatures) : Backed (next.touch now note recorded) where
  checked ready := (backed.checked (status ▸ ready)).touch same history
  signed both := by
    have kept := backed.signed (status ▸ both)
    simpa only [MiniAppOrder.touch, signatures] using kept

/-- Under any other status nothing is asked. -/
theorem backed_of_status (unchecked : next.status ≠ .policyChecked) (unlocked : next.status ≠ .locked)
    (unsigned : next.status ≠ .signed) : Backed next where
  checked ready := (ready.elim unchecked unlocked).elim
  signed both := (unsigned both).elim

theorem mem_setSignature (order : MiniAppOrder) {role other signature : String} :
    other ∈ (order.setSignature role signature).map Prod.fst ↔
      other = role ∨ other ∈ order.signatures.map Prod.fst := by
  simp only [MiniAppOrder.setSignature, List.map_cons, List.mem_cons, List.mem_map,
    List.mem_filter, decide_eq_true_eq]
  constructor
  · rintro (rfl | ⟨entry, ⟨member, -⟩, rfl⟩)
    · exact .inl rfl
    · exact .inr ⟨entry, member, rfl⟩
  · rintro (rfl | ⟨entry, member, rfl⟩)
    · exact .inl rfl
    · by_cases same : entry.1 = role
      · exact .inl same
      · exact .inr ⟨entry, ⟨member, same⟩, rfl⟩

theorem completes_iff {role signature : String} :
    order.completes role = true ↔
      "buyer" ∈ (order.setSignature role signature).map Prod.fst ∧
        "seller" ∈ (order.setSignature role signature).map Prod.fst := by
  simp only [mem_setSignature, MiniAppOrder.completes, Bool.and_eq_true, List.any_eq_true,
    decide_eq_true_eq]
  have present : ∀ other, (∃ entry ∈ order.setSignature role "", entry.1 = other) ↔
      other = role ∨ other ∈ order.signatures.map Prod.fst := by
    intro other
    exact List.mem_map.symm.trans (mem_setSignature order)
  rw [present, present]

theorem Backed.sign {role : Role} {signature : String} (backed : Backed order) :
    Backed (order.sign now role.value signature) := by
  unfold MiniAppOrder.sign
  split
  case isTrue completed =>
    refine ⟨fun ready => ?_, fun _ => completes_iff.mp completed⟩
    rcases ready with checked | locked
    · simp at checked
    · simp at locked
  case isFalse incomplete =>
    refine ⟨fun ready => (backed.checked ready).touch rfl rfl, fun both => ?_⟩
    have kept := backed.signed both
    exact ⟨(mem_setSignature order).mpr (.inr kept.1), (mem_setSignature order).mpr (.inr kept.2)⟩

theorem Backed.applyPolicy {policy : Dict} (backed : Backed order) :
    Backed (order.applyPolicy now policy).1 := by
  have outcome := order.applyPolicy_outcome now policy
  generalize order.applyPolicy now policy = result at outcome
  cases outcome with
  | raised => exact backed
  | rejected =>
      exact backed_of_status (by simp [MiniAppOrder.reject]) (by simp [MiniAppOrder.reject])
        (by simp [MiniAppOrder.reject])
  | checked amount single daily spent _ amountIs singleIs dailyIs spentIs withinSingle withinDaily =>
      refine ⟨fun _ => ⟨order.history, _, [], policy, rfl, rfl, rfl, ?_, ?_⟩, fun both => ?_⟩
      · simp
      · exact within_of_compared amountIs singleIs dailyIs spentIs withinSingle withinDaily
      · simp at both

/-- Every operation keeps what backs an order. -/
theorem Backed.apply (backed : Backed order) (operation : Operation) :
    Backed (operation.apply print now order) := by
  cases operation with
  | attachOffer =>
      exact backed_of_status (by simp [Operation.apply, MiniAppOrder.attachOffer])
        (by simp [Operation.apply, MiniAppOrder.attachOffer])
        (by simp [Operation.apply, MiniAppOrder.attachOffer])
  | sign => exact backed.sign
  | applyPolicy => exact backed.applyPolicy
  | accept | startProcessing =>
      refine kept_require_two backed fun _ _ => ?_
      exact backed.touch rfl rfl rfl rfl
  | deliver =>
      refine kept_require_two backed fun _ _ => ?_
      exact backed_of_status (by simp) (by simp) (by simp)
  | markLocked =>
      refine kept_require backed fun policyChecked => ?_
      exact ⟨fun _ => (backed.checked (.inl policyChecked)).touch rfl rfl, by simp⟩
  | markVerified =>
      exact backed_of_status (by simp [Operation.apply, MiniAppOrder.markVerified])
        (by simp [Operation.apply, MiniAppOrder.markVerified])
        (by simp [Operation.apply, MiniAppOrder.markVerified])
  | submitEvidence | markSettled | markRefunded =>
      refine kept_require backed fun _ => ?_
      exact backed_of_status (by simp) (by simp) (by simp)
  | markDisputed | restoreFulfillment =>
      simp only [Operation.apply, MiniAppOrder.markDisputed, MiniAppOrder.restoreFulfillment]
      split
      · exact backed
      · exact backed.touch rfl rfl rfl rfl

/-- Every order that any run reaches is backed. -/
theorem backed_of_reachable (reachable : (system print).Reachable world)
    (there : world.orders orderId = some order) : Backed order := by
  refine operation_invariant ?_ (fun _ _ operation backed => backed.apply operation) reachable there
  intro now buyerIdentityId intent buyerWallet
  exact backed_of_status (by simp [MiniAppOrder.create]) (by simp [MiniAppOrder.create])
    (by simp [MiniAppOrder.create])

/-- A locked order has passed a policy check since the last change of its terms, with the amount
within the limits of the policy; a signed order has the signatures of both sides. -/
theorem locked_terms_checked (reachable : (system print).Reachable world)
    (there : world.orders orderId = some order) :
    (order.status = .locked → Checked order) ∧
      (order.status = .signed → "buyer" ∈ order.signatures.map Prod.fst ∧
        "seller" ∈ order.signatures.map Prod.fst) :=
  ⟨fun locked => (backed_of_reachable reachable there).checked (.inr locked),
    (backed_of_reachable reachable there).signed⟩

end Proofs

namespace Demo

def lockedOrder : MiniAppOrder := (locked.world.orders "o").get (by decide +kernel)

theorem locked_orders : locked.world.orders "o" = some lockedOrder := (Option.some_get _).symm

end Demo

/-- An offer within the limits of the policy is checked and locked without any signature. -/
theorem locked_unsigned :
    (system Demo.print).Reachable Demo.locked.world ∧
    Demo.locked.world.orders "o" = some Demo.lockedOrder ∧
    Demo.lockedOrder.status = .locked ∧ Demo.lockedOrder.signatures = [] :=
  ⟨Demo.locked.reachable, Demo.locked_orders, by decide +kernel, by decide +kernel⟩

theorem locked_terms_checked_demo : Checked Demo.lockedOrder :=
  (locked_terms_checked Demo.locked.reachable Demo.locked_orders).1 (by decide +kernel)

end TrustChain.Commerce
