import TrustChain.Bilateral.Disputes

/-!
# Payouts under a freeze

The emergency guard is asked by the routines that can pay the agent out of the buyer's bill.
A payout that the guard blocks therefore leaves the agent its own bill at most.
-/

namespace TrustChain.Bilateral

open Library Function Storage

/-- The payouts that ask the guard first. -/
def Payout.Guarded : Payout → Prop
  | .settle _ => True
  | .refund => False
  | .split buyerShareBps => buyerShareBps < 10000

/-- The calls that are not subject to a freeze. -/
def Call.Spared : Call → Prop
  | .refundOnTimeout _ | .unlock _ => True
  | .resolveDispute _ buyerShareBps => buyerShareBps = 10000
  | _ => False

section Routines

variable {deployment : Deployment} {ext : Externals} {msg : Message deployment} {world next : World}
  {bindingId : Nat}

theorem executeSettle_unfrozen {proofHash : Bytes32}
    (ran : executeSettle deployment ext world bindingId proofHash = .ok next) :
    requirePayoutNotFrozen ext world.storage bindingId = .ok () := by
  rw [executeSettle, bind_eq_ok] at ran
  obtain ⟨_, unfrozen, -⟩ := ran
  exact unfrozen

theorem executeSplit_unfrozen {buyerShareBps : Nat} (partial_ : buyerShareBps < 10000)
    (ran : executeSplit deployment ext world bindingId buyerShareBps = .ok next) :
    requirePayoutNotFrozen ext world.storage bindingId = .ok () := by
  rw [executeSplit, bind_eq_ok] at ran
  obtain ⟨_, unfrozen, -⟩ := ran
  rwa [requireSplitNotFrozen, if_pos partial_] at unfrozen

theorem autoOutcome_unfrozen {proofHash : Bytes32} {arb : ArbitrationRecord}
    (guarded : (autoPayout proofHash arb).Guarded)
    (ran : autoOutcome deployment ext world bindingId proofHash
      (decide (arb.buyerSubmittedAt ≠ 0)) (decide (arb.agentSubmittedAt ≠ 0)) = .ok next) :
    requirePayoutNotFrozen ext world.storage bindingId = .ok () := by
  unfold autoOutcome at ran
  unfold autoPayout at guarded
  cases buyer : decide (arb.buyerSubmittedAt ≠ 0) <;>
    cases agent : decide (arb.agentSubmittedAt ≠ 0) <;>
    simp only [buyer, agent, Bool.not_true, Bool.not_false, Bool.and_true, Bool.and_false,
      Bool.false_eq_true, if_true, if_false] at ran guarded
  · exact guarded.elim
  · have unfrozen := executeSettle_unfrozen ran
    exact unfrozen
  · exact absurd guarded (lt_irrefl _)
  · have unfrozen := executeSplit_unfrozen (by decide) ran
    exact unfrozen

/-- A guarded payout has been let through by the guard. -/
theorem exec_unfrozen {call : Call} {payout : Payout}
    (entitled : Entitled deployment msg world.storage call bindingId payout)
    (guarded : payout.Guarded) (ran : exec deployment ext msg call world = .ok next) :
    requirePayoutNotFrozen ext world.storage bindingId = .ok () := by
  cases entitled with
  | attested bindingId proofHash started attested gateway =>
      simp only [exec, dispatch, settle, bind_eq_ok, enter_eq_ok, requireBinding_eq_ok] at ran
      obtain ⟨_, ⟨-, rfl⟩, _, ⟨-, rfl⟩, _, -, rest⟩ := ran
      rw [if_pos attested] at rest
      simp only [bind_eq_ok] at rest
      obtain ⟨_, -, settled, ran, -⟩ := rest
      have unfrozen := executeSettle_unfrozen ran
      exact unfrozen
  | finalized bindingId finalizing closed =>
      simp only [exec, dispatch, finalizeSettle, bind_eq_ok, enter_eq_ok] at ran
      obtain ⟨_, ⟨-, rfl⟩, _, -, settled, ran, -⟩ := ran
      have unfrozen := executeSettle_unfrozen ran
      exact unfrozen
  | autoResolved bindingId disputed started unresolved closed =>
      simp only [exec, dispatch, autoResolveArbitration, bind_eq_ok, enter_eq_ok,
        requireBinding_eq_ok] at ran
      obtain ⟨_, ⟨-, rfl⟩, _, ⟨-, rfl⟩, _, -, _, -, _, -, _, -, _, -, _, -, _, -, _, ran, -⟩ := ran
      have unfrozen := autoOutcome_unfrozen guarded ran
      exact unfrozen
  | adminResolved bindingId buyerShareBps admin share disputed =>
      simp only [exec, dispatch, resolveDispute, bind_eq_ok, enter_eq_ok] at ran
      obtain ⟨_, ⟨-, rfl⟩, _, -, _, -, _, -, _, -, split, ran, -⟩ := ran
      have unfrozen := executeSplit_unfrozen guarded ran
      simp only [World.emit] at unfrozen
      split at unfrozen <;> exact unfrozen
  | timedOut => exact guarded.elim

/-- What the guard answers has no effect on a spared call. -/
theorem exec_spared {call : Call} (spared : call.Spared)
    (answers : Nat → Nat → Nat → Address → Address → Option (Bool × Nat × Nat)) :
    exec deployment { ext with payoutBlocked := answers } msg call world =
      exec deployment ext msg call world := by
  cases call with
  | refundOnTimeout bindingId => rfl
  | unlock billId => rfl
  | resolveDispute bindingId buyerShareBps =>
      obtain rfl : buyerShareBps = 10000 := spared
      rfl
  | _ => exact spared.elim

end Routines

section Steps

variable {deployment : Deployment} {ext : Externals} {msg : Message deployment} {world next : World}
  {bindingId : Nat} {call : Call}

/-- What the guard answers on the payout of a binding. -/
def payoutAnswer (ext : Externals) (storage : Storage) (bindingId : Nat) :
    Option (Bool × Nat × Nat) :=
  ext.payoutBlocked bindingId (storage.bindings bindingId).buyerBillId
    (storage.bindings bindingId).agentBillId (storage.buyerOwner bindingId)
    (storage.agentOwner bindingId)

theorem frozen_of_blocked {storage : Storage} {scope until_ : Nat}
    (guarded : storage.config.emergencyGuard ≠ 0) (nonzero : bindingId ≠ 0)
    (blocked : payoutAnswer ext storage bindingId = some (true, scope, until_)) :
    requirePayoutNotFrozen ext storage bindingId ≠ .ok () := by
  have asked : ¬(storage.config.emergencyGuard = 0 ∨ bindingId = 0) := not_or.mpr ⟨guarded, nonzero⟩
  unfold payoutAnswer Storage.buyerOwner Storage.agentOwner at blocked
  rw [requirePayoutNotFrozen, if_neg asked]
  simp only [blocked, require]
  simp

/-- The parts of an unguarded payout: the agent gets its own bill, or nothing. -/
theorem Shared.agentPart_le {config : Config} {buyerBill agentBill : BillToken} {payout : Payout}
    {calls : List TokenCall} {fee buyerPart agentPart : Nat}
    (shared : Shared ext config bindingId buyerBill agentBill payout calls fee buyerPart agentPart)
    (unguarded : ¬payout.Guarded)
    (admissible : ∀ buyerShareBps, payout = .split buyerShareBps → buyerShareBps ≤ 10000) :
    agentPart ≤ agentBill.amount := by
  have parts := shared.parts
  have whole := shared.sum_eq
  cases payout with
  | settle proofHash => exact absurd trivial unguarded
  | refund => exact parts.2.2.le
  | split buyerShareBps =>
      have full : buyerShareBps = 10000 := (admissible buyerShareBps rfl).antisymm (not_lt.mp unguarded)
      obtain ⟨-, share⟩ := parts
      rw [full, buyerShare, Nat.mul_div_cancel _ (by decide)] at share
      omega

/-- In no token is the agent paid more than its part. -/
theorem Shared.paid_le {config : Config} {buyerBill agentBill : BillToken} {payout : Payout}
    {calls : List TokenCall} {fee buyerPart agentPart : Nat}
    (shared : Shared ext config bindingId buyerBill agentBill payout calls fee buyerPart agentPart)
    (owners_ne : buyerBill.owner ≠ agentBill.owner) (token : Address) :
    Erc20.paidTo token agentBill.owner calls ≤ agentPart := by
  rw [Erc20.paidTo, shared.total_eq _ fun _ _ => ⟨ite_self 0, rfl⟩]
  simp only [Erc20.OwnCall.paid, owners_ne, and_false, if_false, Nat.zero_add, and_true]
  split
  · exact le_rfl
  · exact Nat.zero_le _

/-- A payout splits by a hundred percent at most. -/
theorem Entitled.share_le {storage : Storage} {buyerShareBps : Nat}
    (entitled : Entitled deployment msg storage call bindingId (.split buyerShareBps)) :
    buyerShareBps ≤ 10000 := by
  generalize split : Payout.split buyerShareBps = payout at entitled
  cases entitled with
  | attested => cases split
  | finalized => cases split
  | autoResolved =>
      unfold autoPayout at split
      split at split <;> cases split <;> decide
  | adminResolved _ _ _ share =>
      cases split
      exact share
  | timedOut => cases split

/-- A call on a binding whose payout the guard blocks pays the agent its own bill at most;
any other call leaves the binding as it is. -/
theorem step_blocked {scope until_ : Nat} (reachable : (system deployment).Reachable world)
    (step : (system deployment).Step world (.call msg ext call) next)
    (guarded : world.storage.config.emergencyGuard ≠ 0)
    (blocked : payoutAnswer ext world.storage bindingId = some (true, scope, until_)) :
    (call.binding = some bindingId → ∃ calls, next.tokenCalls = world.tokenCalls ++ calls ∧
      ∀ token, Erc20.paidTo token (world.storage.agentOwner bindingId) calls ≤
        (world.storage.bills (world.storage.bindings bindingId).agentBillId).amount) ∧
    (call.binding ≠ some bindingId → world.storage.Opened bindingId →
      next.storage.bindings bindingId = world.storage.bindings bindingId) := by
  have valid := reachable_valid reachable
  cases step_fate reachable step bindingId with
  | call _ _ _ calls own dossier next later now_eq tokenCalls_eq owned dossier_eq fate =>
      have binding_eq : next.storage.bindings bindingId = dossier.binding :=
        congrArg Dossier.binding dossier_eq
      constructor
      · intro named
        obtain rfl := owned named
        refine ⟨own, tokenCalls_eq, fun token => ?_⟩
        cases fate with
        | kept _ unnamed => exact absurd named unnamed
        | opened _ terms state _ binds => rw [binds.unnamed] at named; cases named
        | submitted => exact Nat.zero_le _
        | disputed => exact Nat.zero_le _
        | evidence => exact Nat.zero_le _
        | paid _ payout _ opened entitled disbursed =>
            have isPact := (opened_iff valid.wellFormed).mp opened
            have frozen := frozen_of_blocked guarded (Nat.one_le_iff_ne_zero.mp isPact.1) blocked
            have ran := (step_call.mp step).2
            have unguarded : ¬payout.Guarded := fun asks => frozen (exec_unfrozen entitled asks ran)
            obtain ⟨fee, buyerPart, agentPart, shared⟩ := disbursed.shared
            apply (shared.paid_le (valid.books.owners_ne bindingId opened) token).trans
            apply shared.agentPart_le unguarded
            rintro buyerShareBps rfl
            exact entitled.share_le
      · intro unnamed opened
        rw [binding_eq]
        cases fate with
        | kept => rfl
        | opened _ terms state unopened => exact absurd opened unopened
        | paid _ payout _ _ entitled => exact absurd entitled.names unnamed
        | submitted | disputed | evidence => exact absurd rfl unnamed

end Steps

end TrustChain.Bilateral
