import TrustChain.Bilateral.Disputes

/-!
# One exact payout for every binding

Whichever entry point pays a binding out, the parts add up to its pool, and no later
transaction pays for it again.
-/

namespace TrustChain.Bilateral

open Library Function Storage

section Payouts

variable {deployment : Deployment} {world next later : World} {action : Action deployment}
  {actions : List (Action deployment)} {bindingId : Nat}

/-- The calls that pay a binding out: transfers to its two owners and at most an approval
of the fee bridge, which together make up the pool. -/
structure ExactPayout (deployment : Deployment) (world : World) (action : Action deployment)
    (bindingId : Nat) (calls : List TokenCall) : Prop where
  sum_eq : Erc20.paidTo (world.storage.tokenOf bindingId) (world.storage.buyerOwner bindingId) calls +
      Erc20.paidTo (world.storage.tokenOf bindingId) (world.storage.agentOwner bindingId) calls +
      Erc20.approvedIn (world.storage.tokenOf bindingId) calls = world.storage.pool bindingId
  only : ∀ call ∈ calls,
    (∃ amount, call = .pay (world.storage.tokenOf bindingId) (world.storage.buyerOwner bindingId) amount) ∨
    (∃ amount, call = .pay (world.storage.tokenOf bindingId) (world.storage.agentOwner bindingId) amount) ∨
    (∃ amount, call = .allow (world.storage.tokenOf bindingId) world.storage.config.feeBridge amount)
  fee_le : Erc20.approvedIn (world.storage.tokenOf bindingId) calls ≤
    world.storage.pool bindingId * 1000 / 10000
  feeless : (∀ msg ext proofHash, action ≠ .call msg ext (.settle bindingId proofHash)) →
    (∀ msg ext, action ≠ .call msg ext (.finalizeSettle bindingId)) →
    Erc20.approvedIn (world.storage.tokenOf bindingId) calls = 0

/-- A payout outside of a settlement is a refund or a split. -/
theorem Entitled.feeless {ext : Externals} {msg : Message deployment} {storage : Storage}
    {call : Call} {payout : Payout} {calls : List TokenCall} {buyerBill agentBill : BillToken}
    {fee buyerPart agentPart : Nat}
    (entitled : Entitled deployment msg storage call bindingId payout)
    (arbitrated : Arbitrated (storage.dossier bindingId) (storage.buyerOwner bindingId))
    (shared : Shared ext storage.config bindingId buyerBill agentBill payout calls fee buyerPart
      agentPart)
    (unsettled : ∀ proofHash, call ≠ .settle bindingId proofHash)
    (unfinalized : call ≠ .finalizeSettle bindingId) : fee = 0 := by
  have parts := shared.parts
  cases entitled with
  | attested _ proofHash => exact absurd rfl (unsettled proofHash)
  | finalized => exact absurd rfl unfinalized
  | autoResolved _ disputed =>
      have buyerSubmitted : (storage.arbitrations bindingId).buyerSubmittedAt ≠ 0 :=
        (arbitrated.disputed disputed).buyerSubmitted
      rw [autoPayout_of_buyer buyerSubmitted] at parts
      exact parts.1
  | adminResolved => exact parts.1
  | timedOut => exact parts.1

/-- A transaction that names a binding and makes token calls pays the binding out, exactly. -/
theorem step_payout (reachable : (system deployment).Reachable world)
    (step : (system deployment).Step world action next) (names : action.names bindingId)
    (pays : next.tokenCalls ≠ world.tokenCalls) :
    world.storage.Opened bindingId ∧ (next.storage.bindings bindingId).state.live = false ∧
      ∃ calls, next.tokenCalls = world.tokenCalls ++ calls ∧
        ExactPayout deployment world action bindingId calls := by
  have valid := reachable_valid reachable
  have arbitrated := reachable_arbitrated reachable bindingId
  cases step_fate reachable step bindingId with
  | token token operation ledger => exact names.elim
  | call msg ext call calls own dossier next later now_eq tokenCalls_eq owned dossier_eq fate =>
      obtain rfl := owned names
      have silent : own ≠ [] := by
        rintro rfl
        exact pays (by rw [tokenCalls_eq, List.append_nil])
      cases fate with
      | kept => exact absurd rfl silent
      | opened => exact absurd rfl silent
      | submitted => exact absurd rfl silent
      | disputed => exact absurd rfl silent
      | evidence => exact absurd rfl silent
      | paid _ payout _ opened entitled disbursed =>
          obtain ⟨fee, buyerPart, agentPart, shared⟩ := disbursed.shared
          obtain ⟨toBuyer, toAgent, approved⟩ :=
            shared.amounts (valid.books.owners_ne bindingId opened)
          have closed : (next.storage.bindings bindingId).state.live = false := by
            change (next.storage.dossier bindingId).binding.state.live = false
            rw [dossier_eq]
            cases payout <;> rfl
          refine ⟨opened, closed, own, tokenCalls_eq, ?_⟩
          constructor
          case sum_eq =>
            have whole := shared.sum_eq
            unfold Storage.tokenOf Storage.buyerOwner Storage.agentOwner Storage.pool
            omega
          case only =>
            intro call member
            rcases shared.only call member with same | same | same
            · exact .inr (.inr ⟨_, same⟩)
            · exact .inl ⟨_, same⟩
            · exact .inr (.inl ⟨_, same⟩)
          case fee_le => exact approved.trans_le shared.fee_le
          case feeless =>
            intro unsettled unfinalized
            refine approved.trans (entitled.feeless arbitrated shared ?_ ?_)
            · rintro proofHash rfl
              exact unsettled msg ext proofHash rfl
            · rintro rfl
              exact unfinalized msg ext rfl

/-- A binding that is paid out, with both its bills burned. -/
structure Closed (storage : Storage) (bindingId : Nat) (b : Binding) : Prop where
  opened : storage.Opened bindingId
  binding_eq : storage.bindings bindingId = b
  dead : b.state.live = false

theorem Closed.burned {storage : Storage} {b : Binding} (closed : Closed storage bindingId b)
    (valid : Valid storage) :
    (b.state = .settled ∨ b.state = .refunded) ∧
      (storage.bills b.buyerBillId).state = .burned ∧
      (storage.bills b.agentBillId).state = .burned := by
  obtain ⟨opened, rfl, dead⟩ := closed
  have terminal : (storage.bindings bindingId).state = .settled ∨
      (storage.bindings bindingId).state = .refunded := by
    cases state : (storage.bindings bindingId).state <;> simp_all [BindingState.live]
  exact ⟨terminal, valid.books.closed_burned bindingId terminal⟩

theorem step_closed {b : Binding} (reachable : (system deployment).Reachable world)
    (closed : Closed world.storage bindingId b)
    (step : (system deployment).Step world action next) : Closed next.storage bindingId b := by
  obtain ⟨opened, rfl, dead⟩ := closed
  have binding := step_binding reachable step opened
  cases step_fate reachable step bindingId with
  | token token operation ledger => exact ⟨opened, rfl, dead⟩
  | call msg ext call calls own dossier next later now_eq tokenCalls_eq owned dossier_eq fate =>
      obtain ⟨rfl, -⟩ := fate.of_closed opened dead
      exact ⟨binding.opened, congrArg Dossier.binding dossier_eq, dead⟩

/-- Once closed, a binding stays closed along every run. -/
theorem run_closed {b : Binding} (reachable : (system deployment).Reachable world)
    (closed : Closed world.storage bindingId b)
    (run : (system deployment).Run world actions later) : Closed later.storage bindingId b := by
  refine run.preserves_reachable (fun state action next earlier before step => ?_) reachable closed
  exact step_closed earlier before step

/-- No token calls are made on behalf of a closed binding. -/
theorem closed_silent {b : Binding} (reachable : (system deployment).Reachable world)
    (closed : Closed world.storage bindingId b)
    (step : (system deployment).Step world action next) (names : action.names bindingId) :
    next.tokenCalls = world.tokenCalls := by
  obtain ⟨opened, rfl, dead⟩ := closed
  cases step_fate reachable step bindingId with
  | token token operation ledger => rfl
  | call msg ext call calls own dossier next later now_eq tokenCalls_eq owned dossier_eq fate =>
      obtain ⟨-, rfl⟩ := fate.of_closed opened dead
      rw [tokenCalls_eq, ← owned names, List.append_nil]

/-- A transaction that pays a binding out does so exactly, and in every later state the
binding is settled or refunded as it was then, both its bills are burned, and no further
transaction pays for it. -/
theorem payout_once (reachable : (system deployment).Reachable world)
    (step : (system deployment).Step world action next) (names : action.names bindingId)
    (pays : next.tokenCalls ≠ world.tokenCalls) :
    (∃ calls, next.tokenCalls = world.tokenCalls ++ calls ∧
      ExactPayout deployment world action bindingId calls) ∧
    ∀ actions later, (system deployment).Run next actions later →
      ((later.storage.bindings bindingId).state = .settled ∨
        (later.storage.bindings bindingId).state = .refunded) ∧
      later.storage.bindings bindingId = next.storage.bindings bindingId ∧
      (later.storage.bills (world.storage.bindings bindingId).buyerBillId).state = .burned ∧
      (later.storage.bills (world.storage.bindings bindingId).agentBillId).state = .burned ∧
      ∀ action last, (system deployment).Step later action last → action.names bindingId →
        last.tokenCalls = later.tokenCalls := by
  obtain ⟨opened, dead, payout⟩ := step_payout reachable step names pays
  refine ⟨payout, ?_⟩
  intro actions later run
  have binding := step_binding reachable step opened
  have reachable' := (reachable.step step).run run
  have closed := run_closed (reachable.step step) ⟨binding.opened, rfl, dead⟩ run
  obtain ⟨terminal, buyer, agent⟩ := closed.burned (reachable_valid reachable')
  rw [binding.buyerBillId_eq] at buyer
  rw [binding.agentBillId_eq] at agent
  refine ⟨?_, closed.binding_eq, buyer, agent, ?_⟩
  · rwa [closed.binding_eq]
  · intro action last step names
    exact closed_silent reachable' closed step names

theorem payout_once_finalized :
    ∃ calls,
      Demo.finalized.world.tokenCalls = Demo.bridged.world.tokenCalls ++ calls ∧
      ExactPayout Demo.deployment Demo.bridged.world
        (Demo.call Demo.agent 89200 (.finalizeSettle 1) { quoteFee := fun _ _ => some 7 }) 1 calls := by
  have step : (system Demo.deployment).Step Demo.bridged.world _ Demo.finalized.world :=
    Demo.bridged.step _ _
  exact (payout_once Demo.bridged.reachable step rfl (by decide +kernel)).1

end Payouts

end TrustChain.Bilateral
