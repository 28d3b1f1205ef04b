import TrustChain.OnchainLock.Saga

/-!
# How often the task locks

An attempt succeeds if every call it makes goes through, and a failed attempt leaves the locks
that landed in it. The task drops their bill ids, so it locks once if and only if no lock
lands in an attempt that fails.
-/

namespace TrustChain.OnchainLock

open Library Function

/-! ## What an attempt meets -/

/-- `_send_tx` returned. -/
def Outcome.Returned : Outcome → Prop
  | .raised .. => False
  | .mined .. => True

instance (outcome : Outcome) : Decidable outcome.Returned :=
  match outcome with
  | .raised .. => inferInstanceAs (Decidable False)
  | .mined .. => inferInstanceAs (Decidable True)

namespace Weather

variable (settings : Settings) (weather : Weather) (amountWei penaltyWei : Int)

/-- The buyer's lock is sent. -/
def ReachesBuyer : Prop :=
  settings.chainAllowHotWalletPayer = true ∧ weather.tokenAllowed = .ok true ∧
    (∃ balance, weather.balance = .ok balance ∧ amountWei ≤ balance) ∧
    ∃ allowance, weather.allowance = .ok allowance ∧ amountWei ≤ allowance

/-- The agent's allowance is there, or its approval is sent. -/
def Approves : Prop :=
  ∃ allowance, weather.agentAllowance = .ok allowance ∧
    (allowance < penaltyWei → weather.approve.outcome.Returned)

/-- The agent's lock is sent. -/
def ReachesAgent : Prop :=
  weather.ReachesBuyer settings amountWei ∧ weather.buyerLock.outcome.Returned ∧
    0 < penaltyWei ∧ weather.Approves penaltyWei

def BuyerLocks : Prop :=
  weather.ReachesBuyer settings amountWei ∧ weather.buyerLock.outcome.lands = true

def AgentLocks : Prop :=
  weather.ReachesAgent settings amountWei penaltyWei ∧ weather.agentLock.outcome.lands = true

/-- Every call goes through. -/
def Clean : Prop :=
  weather.ReachesAgent settings amountWei penaltyWei ∧
    weather.buyerLock.outcome = .mined true true ∧
    weather.agentLock.outcome = .mined true true ∧ weather.bind.outcome = .mined true true

end Weather

/-! ## The calls -/

/-- The number a transaction gets if it takes effect, and the chain after it. -/
def Sent.apply (sent : Sent) (effect : Chain → Nat × Chain) (chain : Chain) : Nat × Chain :=
  let before := chain.elsewhere sent.bills sent.bindings
  let (number, after) := effect before
  (number, if sent.outcome.lands then after else before)

@[simp] theorem run_throw {α : Type} (exc : String) (world : World) :
    (throw exc : Saga α).run world = .error exc world := rfl

/-- The lock that took effect, if it did. -/
def Sent.minted (sent : Sent) (role : Role) (billId : Nat) (amount : Int) : List Lock :=
  if sent.outcome.lands then [⟨role, billId, amount⟩] else []

/-- The bill id, if its event was found. -/
def Sent.known (sent : Sent) (billId : Nat) : Option Nat :=
  if sent.outcome = .mined true true then some billId else none

theorem Sent.apply_lock_locks (sent : Sent) (role : Role) (amount : Int) (chain : Chain) :
    (sent.apply (fun chain => chain.lock role amount) chain).2.locks =
      chain.locks ++ sent.minted role (sent.apply (fun chain => chain.lock role amount) chain).1
        amount := by
  by_cases lands : sent.outcome.lands = true <;>
    simp [Sent.apply, Sent.minted, Chain.lock, Chain.elsewhere, lands]

theorem Sent.apply_approve_locks (sent : Sent) (chain : Chain) :
    (sent.apply Chain.approve chain).2.locks = chain.locks := by
  simp [Sent.apply, Chain.approve, Chain.elsewhere]

theorem Sent.apply_bind_locks (sent : Sent) (buyerBillId agentBillId : Nat) (chain : Chain) :
    (sent.apply (fun chain => chain.bind buyerBillId agentBillId) chain).2.locks =
      chain.locks := by
  by_cases lands : sent.outcome.lands = true <;>
    simp [Sent.apply, Chain.bind, Chain.elsewhere, lands]

theorem Sent.minted_eq_nil {sent : Sent} {role : Role} {billId : Nat} {amount : Int} :
    sent.minted role billId amount = [] ↔ ¬sent.outcome.lands = true := by
  simp [Sent.minted]

theorem sendTx_raised {sent : Sent} {exc : String} {landed : Bool}
    (raised : sent.outcome = .raised exc landed) (effect : Chain → Nat × Chain)
    (world : World) :
    (sendTx sent effect).run world =
      .error exc { world with chain := (sent.apply effect world.chain).2 } := by
  cases landed <;> simp [sendTx, Sent.apply, raised, Outcome.lands]

theorem sendTx_mined {sent : Sent} {succeeded seen : Bool}
    (mined : sent.outcome = .mined succeeded seen) (effect : Chain → Nat × Chain)
    (world : World) :
    ∃ status, (sendTx sent effect).run world =
      .ok ⟨status, if succeeded && seen then some (sent.apply effect world.chain).1 else none⟩
        { world with chain := (sent.apply effect world.chain).2 } := by
  cases succeeded <;> simp only [sendTx, Sent.apply, mined, Outcome.lands] <;> exact ⟨_, rfl⟩

variable {settings : Settings} {amountWei penaltyWei : Int}

theorem lockErrors_eq_nil {tokenAllowed : Bool} {balance allowance : Int} :
    lockErrors tokenAllowed balance allowance amountWei = [] ↔
      tokenAllowed = true ∧ amountWei ≤ balance ∧ amountWei ≤ allowance := by
  simp [lockErrors]

theorem run_bind_ok {α β : Type} {world : World} {first : Saga α} {answer : α} {next : World}
    (ran : first.run world = .ok answer next) (rest : α → Saga β) :
    (first >>= rest).run world = (rest answer).run next := by
  rw [EStateM.run_bind, ran]

theorem run_bind_error {α β : Type} {world : World} {first : Saga α} {exc : String} {next : World}
    (ran : first.run world = .error exc next) (rest : α → Saga β) :
    (first >>= rest).run world = .error exc next := by
  rw [EStateM.run_bind, ran]

variable (weather : Weather) (world : World)

variable (amount : truncate world.contract.escrowAmount = amountWei)

include amount

/-- Nothing is sent unless the checks pass. -/
theorem preChecks_unready (unready : ¬weather.ReachesBuyer settings amountWei) :
    ∃ exc, (preChecks settings weather).run world = .error exc world := by
  subst amount
  obtain ⟨tokenAllowed, balance, allowance, buyerLock, agentAllowance, approve, agentLock, bind⟩ :=
    weather
  cases hot : settings.chainAllowHotWalletPayer with
  | false =>
      simp only [preChecks, hot, Bool.not_false, if_true, EStateM.run_bind, run_throw]
      exact ⟨_, rfl⟩
  | true =>
  cases tokenAllowed with
  | error exc => exact ⟨exc, by simp [preChecks, hot, read]⟩
  | ok tokenAllowed =>
  cases balance with
  | error exc => exact ⟨exc, by simp [preChecks, hot, read]⟩
  | ok balance =>
  cases allowance with
  | error exc => exact ⟨exc, by simp [preChecks, hot, read]⟩
  | ok allowance =>
  have failing : lockErrors tokenAllowed balance allowance
      (truncate world.contract.escrowAmount) ≠ [] := by
    simpa [Weather.ReachesBuyer, hot, lockErrors_eq_nil] using unready
  refine ⟨"Lock pre-checks failed: " ++ strList (lockErrors tokenAllowed balance allowance
    (truncate world.contract.escrowAmount)), ?_⟩
  simp [preChecks, hot, read, failing, -bind_pure_comp]

theorem preChecks_ready (ready : weather.ReachesBuyer settings amountWei) :
    (preChecks settings weather).run world = .ok amountWei world := by
  obtain ⟨hot, allowed, ⟨balance, held, funded⟩, allowance, granted, approved⟩ := ready
  have passing : lockErrors true balance allowance amountWei = [] :=
    lockErrors_eq_nil.mpr ⟨rfl, funded, approved⟩
  simp [preChecks, hot, allowed, held, granted, read, amount, passing]

/-- The buyer's lock for a new contract: what it minted is known if its event was found. -/
theorem lockFunds_ready (ready : weather.ReachesBuyer settings amountWei)
    (doLock : world.contract.onchainDoLock = true)
    (fresh : world.contract.onchainBuyerBillId = none) :
    ∃ billId chain, chain.locks = world.chain.locks ++
        weather.buyerLock.minted .buyer billId amountWei ∧
      (weather.buyerLock.outcome.Returned ∧
          (∃ report, (lockFunds settings weather).run world = .ok report ⟨chain,
            { world.contract with onchainBuyerBillId := weather.buyerLock.known billId }⟩) ∨
        ¬weather.buyerLock.outcome.Returned ∧
          ∃ exc, (lockFunds settings weather).run world = .error exc ⟨chain, world.contract⟩) := by
  let effect : Chain → Nat × Chain := fun chain => chain.lock .buyer amountWei
  refine ⟨(weather.buyerLock.apply effect world.chain).1,
    (weather.buyerLock.apply effect world.chain).2, Sent.apply_lock_locks .., ?_⟩
  rw [lockFunds, run_bind_ok (preChecks_ready weather world amount ready), run_bind_ok (EStateM.run_get world),
    if_pos doLock]
  cases outcome : weather.buyerLock.outcome with
  | raised exc landed =>
      exact .inr ⟨id, exc, run_bind_error (sendTx_raised outcome effect world) _⟩
  | mined succeeded seen =>
      obtain ⟨status, sent⟩ := sendTx_mined outcome effect world
      refine .inl ⟨trivial, ?_⟩
      rw [run_bind_ok sent, Sent.known, outcome]
      obtain ⟨chain, taskId, escrowAmount, onchainDoLock, buyerBillId, _⟩ := world
      obtain rfl : buyerBillId = none := fresh
      cases succeeded <;> cases seen <;> simp [-bind_pure_comp]

omit amount

theorem approvePenalty_cases (penaltyWei : Int) :
    ∃ chain, chain.locks = world.chain.locks ∧
      (weather.Approves penaltyWei ∧
          (approvePenalty weather penaltyWei).run world = .ok () ⟨chain, world.contract⟩ ∨
        ¬weather.Approves penaltyWei ∧
          ∃ exc, (approvePenalty weather penaltyWei).run world =
            .error exc ⟨chain, world.contract⟩) := by
  rw [approvePenalty, Weather.Approves]
  cases weather.agentAllowance with
  | error exc => exact ⟨world.chain, rfl, .inr ⟨by simp, exc, by simp [read]⟩⟩
  | ok allowance =>
  simp only [read, pure_bind, Except.ok.injEq, exists_eq_left']
  split_ifs with short
  · cases outcome : weather.approve.outcome with
    | raised exc landed =>
        refine ⟨_, Sent.apply_approve_locks weather.approve _, .inr ⟨fun approves => approves short, exc, ?_⟩⟩
        exact run_bind_error (sendTx_raised outcome Chain.approve world) _
    | mined succeeded seen =>
        obtain ⟨status, sent⟩ := sendTx_mined outcome Chain.approve world
        refine ⟨_, Sent.apply_approve_locks weather.approve _, .inl ⟨fun _ => trivial, ?_⟩⟩
        exact run_bind_ok sent _
  · exact ⟨world.chain, rfl, .inl ⟨fun low => absurd low short, rfl⟩⟩

/-- The agent's lock for a penalty: it returns only with the bill id. -/
theorem lockAgentPenalty_cases (positive : 0 < penaltyWei)
    (approves : weather.Approves penaltyWei) :
    ∃ billId chain, chain.locks = world.chain.locks ++
        weather.agentLock.minted .agent billId penaltyWei ∧
      (weather.agentLock.outcome = .mined true true ∧
          (∃ report, (lockAgentPenalty weather penaltyWei).run world = .ok report ⟨chain,
            { world.contract with onchainAgentBillId := some billId }⟩) ∨
        weather.agentLock.outcome ≠ .mined true true ∧
          ∃ exc, (lockAgentPenalty weather penaltyWei).run world =
            .error exc ⟨chain, world.contract⟩) := by
  obtain ⟨approved, same, ⟨-, ran⟩ | ⟨refused, -⟩⟩ :=
    approvePenalty_cases weather world penaltyWei
  · let effect : Chain → Nat × Chain := fun chain => chain.lock .agent penaltyWei
    refine ⟨(weather.agentLock.apply effect approved).1,
      (weather.agentLock.apply effect approved).2, same ▸ Sent.apply_lock_locks .., ?_⟩
    rw [lockAgentPenalty, if_neg (Int.not_le.mpr positive), run_bind_ok ran]
    cases outcome : weather.agentLock.outcome with
    | raised exc landed =>
        exact .inr ⟨by simp, exc, run_bind_error (sendTx_raised outcome effect _) _⟩
    | mined succeeded seen =>
        obtain ⟨status, sent⟩ := sendTx_mined outcome effect ⟨approved, world.contract⟩
        rw [run_bind_ok sent]
        cases succeeded <;> cases seen <;> simp [-bind_pure_comp]
  · exact absurd approves refused

/-- Without the agent's lock, the penalty is skipped or its preparation raises. -/
theorem lockAgentPenalty_unreached
    (unreached : ¬(0 < penaltyWei ∧ weather.Approves penaltyWei)) :
    ∃ chain, chain.locks = world.chain.locks ∧
      ((∃ report, (lockAgentPenalty weather penaltyWei).run world =
          .ok report ⟨chain, world.contract⟩) ∨
        ∃ exc, (lockAgentPenalty weather penaltyWei).run world =
          .error exc ⟨chain, world.contract⟩) := by
  by_cases positive : 0 < penaltyWei
  · obtain ⟨chain, same, ⟨approves, -⟩ | ⟨-, exc, ran⟩⟩ :=
      approvePenalty_cases weather world penaltyWei
    · exact absurd ⟨positive, approves⟩ unreached
    · refine ⟨chain, same, .inr ⟨exc, ?_⟩⟩
      rw [lockAgentPenalty, if_neg (Int.not_le.mpr positive), run_bind_error ran]
  · refine ⟨world.chain, rfl, .inl ⟨⟨"skipped", none, none⟩, ?_⟩⟩
    rw [lockAgentPenalty, if_pos (Int.not_lt.mp positive)]
    rfl

/-- Binding the bills of a contract: it returns only with a binding of these. -/
theorem bindBills_cases {buyerBill agentBill : Nat}
    (buyer : world.contract.onchainBuyerBillId = some buyerBill)
    (agent : world.contract.onchainAgentBillId = some agentBill) :
    ∃ bindingId chain, chain.locks = world.chain.locks ∧
      (weather.bind.outcome = .mined true true ∧
          chain.bindings bindingId = some (buyerBill, agentBill) ∧
          (bindBills weather).run world = .ok bindingId ⟨chain,
            { world.contract with onchainBindingId := some bindingId }⟩ ∨
        weather.bind.outcome ≠ .mined true true ∧
          ∃ exc, (bindBills weather).run world = .error exc ⟨chain, world.contract⟩) := by
  let effect : Chain → Nat × Chain := fun chain => chain.bind buyerBill agentBill
  refine ⟨(weather.bind.apply effect world.chain).1, (weather.bind.apply effect world.chain).2,
    Sent.apply_bind_locks .., ?_⟩
  rw [bindBills, run_bind_ok (EStateM.run_get world), run_bind_ok (EStateM.run_get world), buyer,
    agent]
  cases outcome : weather.bind.outcome with
  | raised exc landed =>
      exact .inr ⟨by simp, exc, run_bind_error (sendTx_raised outcome effect _) _⟩
  | mined succeeded seen =>
      obtain ⟨status, sent⟩ := sendTx_mined outcome effect world
      dsimp only
      rw [run_bind_ok sent]
      cases succeeded <;> cases seen <;>
        simp [-bind_pure_comp, Sent.apply, outcome, Outcome.lands, effect, Chain.bind]

theorem bindBills_missing (missing : world.contract.onchainBuyerBillId = none ∨
      world.contract.onchainAgentBillId = none) :
    ∃ exc, (bindBills weather).run world = .error exc world := by
  rw [bindBills, run_bind_ok (EStateM.run_get world), run_bind_ok (EStateM.run_get world)]
  rcases missing with none | none
  · rw [none]
    exact ⟨_, rfl⟩
  · rw [none]
    cases world.contract.onchainBuyerBillId <;> exact ⟨_, rfl⟩

/-! ## An attempt -/

/-- No lock lands in the attempt. -/
def Weather.LocksNothing (settings : Settings) (weather : Weather) (amountWei penaltyWei : Int) :
    Prop :=
  ¬weather.BuyerLocks settings amountWei ∧ ¬weather.AgentLocks settings amountWei penaltyWei

/-- The only locks are one of the buyer and one of the agent, and the result's binding is of
these. -/
def Binds (result : Bound) (locks : List Lock) (bindings : Nat → Option (Nat × Nat)) : Prop :=
  ∃ buyer agent, locks = [buyer, agent] ∧ buyer.role = .buyer ∧ agent.role = .agent ∧
    bindings result.bindingId = some (buyer.billId, agent.billId)

theorem lockAndBind_cases (chain : Chain) (taskId : String) {escrowAmount : ℚ}
    {sellerPenaltyWei : Int} (amount : truncate escrowAmount = amountWei)
    (penalty : settings.penaltyFor amountWei sellerPenaltyWei = penaltyWei) :
    ∃ minted next, next.chain.locks = chain.locks ++ minted ∧
      (weather.Clean settings amountWei penaltyWei ∧
          (∃ result, Binds result minted next.chain.bindings ∧
            (lockAndBind settings weather sellerPenaltyWei).run
              ⟨chain, { taskId, escrowAmount, onchainDoLock := true }⟩ = .ok result next) ∨
        ¬weather.Clean settings amountWei penaltyWei ∧
          (minted = [] ↔ weather.LocksNothing settings amountWei penaltyWei) ∧
          ∃ exc, (lockAndBind settings weather sellerPenaltyWei).run
            ⟨chain, { taskId, escrowAmount, onchainDoLock := true }⟩ = .error exc next) := by
  rw [lockAndBind, run_bind_ok (EStateM.run_get _)]
  dsimp only
  rw [amount, penalty]
  by_cases ready : weather.ReachesBuyer settings amountWei
  case neg =>
    obtain ⟨exc, ran⟩ := preChecks_unready weather
      ⟨chain, { taskId, escrowAmount, onchainDoLock := true }⟩ amount ready
    refine ⟨[], ⟨chain, _⟩, by simp, .inr ⟨fun clean => ready clean.1.1, ?_, exc,
      run_bind_error (run_bind_error ran _) _⟩⟩
    simp [Weather.LocksNothing, Weather.BuyerLocks, Weather.AgentLocks, Weather.ReachesAgent,
      ready]
  obtain ⟨buyerBill, locked, buyerLocks, ⟨returned, _, ran⟩ | ⟨raised, exc, ran⟩⟩ :=
    lockFunds_ready weather ⟨chain, { taskId, escrowAmount, onchainDoLock := true }⟩ amount ready
      rfl rfl
  case inr =>
    refine ⟨_, ⟨locked, _⟩, buyerLocks, .inr ⟨fun clean => raised clean.1.2.1, ?_,
      exc, run_bind_error ran _⟩⟩
    simp [Sent.minted_eq_nil, Weather.LocksNothing, Weather.BuyerLocks, Weather.AgentLocks,
      Weather.ReachesAgent, ready, raised]
  rw [run_bind_ok ran]
  dsimp only
  let contract : TaskContract := { taskId, escrowAmount, onchainDoLock := true,
                                   onchainBuyerBillId := weather.buyerLock.known buyerBill }
  by_cases reached : 0 < penaltyWei ∧ weather.Approves penaltyWei
  case neg =>
    have unreached : ¬weather.ReachesAgent settings amountWei penaltyWei :=
      fun reaches => reached reaches.2.2
    have nothing : weather.buyerLock.minted .buyer buyerBill amountWei = [] ↔
        weather.LocksNothing settings amountWei penaltyWei := by
      simp [Sent.minted_eq_nil, Weather.LocksNothing, Weather.BuyerLocks, Weather.AgentLocks,
        ready, unreached]
    obtain ⟨after, same, ⟨_, skipped⟩ | ⟨exc, failed⟩⟩ := lockAgentPenalty_unreached weather ⟨locked, contract⟩ reached
    · -- The penalty is zero: there is no bill to bind.
      obtain ⟨exc, missing⟩ := bindBills_missing weather ⟨after, contract⟩ (.inr rfl)
      refine ⟨_, ⟨after, contract⟩, same.trans buyerLocks,
        .inr ⟨fun clean => unreached clean.1, nothing, exc, ?_⟩⟩
      rw [run_bind_ok skipped]
      exact run_bind_error missing _
    · exact ⟨_, ⟨after, contract⟩, same.trans buyerLocks,
        .inr ⟨fun clean => unreached clean.1, nothing, exc, run_bind_error failed _⟩⟩
  obtain ⟨agentBill, staked, agentLocks, ⟨outcome, _, ran⟩ | ⟨outcome, exc, ran⟩⟩ :=
    lockAgentPenalty_cases weather ⟨locked, contract⟩ reached.1 reached.2
  case inr =>
    refine ⟨_, ⟨staked, contract⟩, agentLocks.trans (by rw [buyerLocks, List.append_assoc]),
      .inr ⟨fun clean => outcome clean.2.2.1, ?_, exc, run_bind_error ran _⟩⟩
    simp [Sent.minted_eq_nil, Weather.LocksNothing, Weather.BuyerLocks, Weather.AgentLocks,
      Weather.ReachesAgent, ready, returned, reached]
  have agentMinted : weather.agentLock.minted .agent agentBill penaltyWei =
      [⟨.agent, agentBill, penaltyWei⟩] := by
    simp [Sent.minted, outcome, Outcome.lands]
  have locks : staked.locks = chain.locks ++
      (weather.buyerLock.minted .buyer buyerBill amountWei ++
        [⟨.agent, agentBill, penaltyWei⟩]) := by
    rw [agentLocks, agentMinted, buyerLocks, List.append_assoc]
  rw [run_bind_ok ran]
  dsimp only
  have agentLands : ¬weather.LocksNothing settings amountWei penaltyWei := fun nothing =>
    nothing.2 ⟨⟨ready, returned, reached⟩, by simp [outcome, Outcome.lands]⟩
  let complete : TaskContract := { contract with onchainAgentBillId := some agentBill }
  by_cases seen : weather.buyerLock.outcome = .mined true true
  case neg =>
    obtain ⟨exc, missing⟩ := bindBills_missing weather ⟨staked, complete⟩
      (.inl (by simp [complete, contract, Sent.known, seen]))
    refine ⟨_, ⟨staked, complete⟩, locks, .inr ⟨fun clean => seen clean.2.1, ?_, exc,
      run_bind_error missing _⟩⟩
    simp [agentLands]
  have buyerMinted : weather.buyerLock.minted .buyer buyerBill amountWei =
      [⟨.buyer, buyerBill, amountWei⟩] := by
    simp [Sent.minted, seen, Outcome.lands]
  rw [buyerMinted] at locks
  have known : weather.buyerLock.known buyerBill = some buyerBill := by simp [Sent.known, seen]
  obtain ⟨bindingId, bound, same, ⟨bind, binding, ran⟩ | ⟨bind, exc, ran⟩⟩ :=
    bindBills_cases weather ⟨staked, complete⟩ known rfl
  · exact ⟨_, ⟨bound, { complete with onchainBindingId := some bindingId }⟩, same.trans locks,
      .inl ⟨⟨⟨ready, returned, reached⟩, seen, outcome, bind⟩, _, ⟨_, _, rfl, rfl, rfl, binding⟩,
        run_bind_ok ran _⟩⟩
  · refine ⟨_, ⟨bound, complete⟩, same.trans locks, .inr ⟨fun clean => bind clean.2.2.2, ?_, exc,
      run_bind_error ran _⟩⟩
    simp [agentLands]

/-! ## The task -/

/-- All attempts: they end with the first clean one, and what failed attempts left stays. -/
theorem attempts_cases (weather : Nat → Weather) (taskId : String) {escrowAmount : ℚ}
    {sellerPenaltyWei : Int} (amount : truncate escrowAmount = amountWei)
    (penalty : settings.penaltyFor amountWei sellerPenaltyWei = penaltyWei)
    (retries attempt : Nat) (chain : Chain) :
    ∃ report after left, attempts settings weather
        { taskId, escrowAmount, onchainDoLock := true } sellerPenaltyWei retries attempt chain =
          (report, after) ∧
      ((∃ clean < retries + 1, ∃ result minted,
          (weather (attempt + clean)).Clean settings amountWei penaltyWei ∧
          (∀ earlier < clean, ¬(weather (attempt + earlier)).Clean settings amountWei penaltyWei) ∧
          (left = [] ↔ ∀ earlier < clean,
            (weather (attempt + earlier)).LocksNothing settings amountWei penaltyWei) ∧
          report = .done taskId result ∧ after.locks = chain.locks ++ left ++ minted ∧
          Binds result minted after.bindings) ∨
        (∀ made < retries + 1, ¬(weather (attempt + made)).Clean settings amountWei penaltyWei) ∧
          (left = [] ↔ ∀ made < retries + 1,
            (weather (attempt + made)).LocksNothing settings amountWei penaltyWei) ∧
          (∃ exc, report = .failed exc) ∧ after.locks = chain.locks ++ left) := by
  induction retries generalizing attempt chain with
  | zero =>
      obtain ⟨minted, next, locks, ⟨clean, result, binds, ran⟩ | ⟨dirty, nothing, exc, ran⟩⟩ :=
        lockAndBind_cases (weather attempt) chain taskId amount penalty
      · refine ⟨.done taskId result, next.chain, [], ?_, .inl ⟨0, Nat.zero_lt_one, result, minted,
          clean, by simp, by simp, rfl, by simpa using locks, binds⟩⟩
        rw [attempts, ran]
      · refine ⟨.failed exc, next.chain, minted, ?_, .inr ⟨?_, ?_, ⟨exc, rfl⟩, locks⟩⟩
        · rw [attempts, ran]
        · simpa using dirty
        · simpa using nothing
  | succ retries ih =>
      obtain ⟨minted, next, locks, ⟨clean, result, binds, ran⟩ | ⟨dirty, nothing, exc, ran⟩⟩ :=
        lockAndBind_cases (weather attempt) chain taskId amount penalty
      · refine ⟨.done taskId result, next.chain, [], ?_, .inl ⟨0, Nat.zero_lt_succ _, result,
          minted, clean, by simp, by simp, rfl, by simpa using locks, binds⟩⟩
        rw [attempts, ran]
      obtain ⟨report, after, left, further, cases⟩ := ih (attempt + 1) next.chain
      refine ⟨report, after, minted ++ left, ?_, ?_⟩
      · rw [attempts, ran]
        exact further
      have shift : ∀ number, attempt + 1 + number = attempt + (number + 1) := fun _ => by omega
      simp only [shift] at cases
      rcases cases with ⟨clean, within, result, last, first, dirtyBefore, nothingBefore, done,
        lockedAfter, binds⟩ | ⟨dirtyAll, nothingAll, failed, lockedAfter⟩
      · refine .inl ⟨clean + 1, Nat.succ_lt_succ within, result, last, first, ?_, ?_, done, ?_,
          binds⟩
        · rw [Nat.forall_lt_succ_left]
          exact ⟨dirty, dirtyBefore⟩
        · rw [Nat.forall_lt_succ_left, List.append_eq_nil_iff, nothing, nothingBefore]
          exact Iff.rfl
        · rw [lockedAfter, locks, List.append_assoc chain.locks]
      · refine .inr ⟨?_, ?_, failed, ?_⟩
        · rw [Nat.forall_lt_succ_left]
          exact ⟨dirty, dirtyAll⟩
        · rw [Nat.forall_lt_succ_left, List.append_eq_nil_iff, nothing, nothingAll]
          exact Iff.rfl
        · rw [lockedAfter, locks, List.append_assoc]

/-- What is asked of the task: at most one lock of either side, a binding of these two with
success, and the bill ids of all locks with failure. -/
structure Once (report : Report) (chain : Chain) : Prop where
  buyer : chain.locks.countP (·.role = .buyer) ≤ 1
  agent : chain.locks.countP (·.role = .agent) ≤ 1
  bound : ∀ taskId result, report = .done taskId result →
    Binds result chain.locks chain.bindings
  kept : ∀ exc, report = .failed exc → ∀ lock ∈ chain.locks, lock.billId ∈ report.billIds

/-- Next to the two locks of a binding there is no room for a third. -/
theorem Binds.alone {result : Bound} {left minted : List Lock}
    {bindings : Nat → Option (Nat × Nat)} (binds : Binds result minted bindings)
    (buyer : (left ++ minted).countP (·.role = .buyer) ≤ 1)
    (agent : (left ++ minted).countP (·.role = .agent) ≤ 1) : left = [] := by
  obtain ⟨first, second, rfl, firstRole, secondRole, -⟩ := binds
  simp [firstRole, secondRole] at buyer agent
  refine List.eq_nil_iff_forall_not_mem.mpr fun lock member => ?_
  cases role : lock.role with
  | buyer => exact buyer lock member role
  | agent => exact agent lock member role

/-- The task locks once if and only if each attempt it makes goes through or locks nothing. -/
theorem lock_and_bind_once (settings : Settings) (weather : Nat → Weather) (taskId : String)
    (escrowWei sellerPenaltyWei : Int) {chain : Chain} (unlocked : chain.locks = []) :
    Once
        (lockAndBindOnchain settings weather taskId escrowWei sellerPenaltyWei chain).1
        (lockAndBindOnchain settings weather taskId escrowWei sellerPenaltyWei chain).2 ↔
      (settings.onchain = true → ∀ escrowAmount, Double.round escrowWei = .finite escrowAmount →
        let amountWei := truncate escrowAmount
        let penaltyWei := settings.penaltyFor amountWei sellerPenaltyWei
        ∀ attempt < maxRetries + 1,
          (∀ earlier < attempt, ¬(weather earlier).Clean settings amountWei penaltyWei) →
          (weather attempt).Clean settings amountWei penaltyWei ∨
            (weather attempt).LocksNothing settings amountWei penaltyWei) := by
  unfold lockAndBindOnchain
  cases onchain : settings.onchain with
  | false =>
      refine iff_of_true ⟨?_, ?_, ?_, ?_⟩ (by simp) <;> simp [unlocked]
  | true =>
  cases rounded : Double.round escrowWei with
  | nan => refine iff_of_true ⟨?_, ?_, ?_, ?_⟩ (by simp) <;> simp [unlocked]
  | infinity negative => refine iff_of_true ⟨?_, ?_, ?_, ?_⟩ (by simp) <;> simp [unlocked]
  | finite escrowAmount =>
  obtain ⟨report, after, left, ran, cases⟩ :=
    attempts_cases weather taskId (Eq.refl (truncate escrowAmount)) rfl maxRetries 0 chain
  simp only [Nat.zero_add, unlocked, List.nil_append] at cases
  dsimp only [Bool.not_true]
  rw [if_neg (by decide), ran]
  dsimp only
  rcases cases with ⟨clean, within, result, minted, last, first, nothing, rfl, locks, binds⟩ |
    ⟨dirty, nothing, ⟨exc, rfl⟩, locks⟩
  · have alone : Once (.done taskId result) after ↔ left = [] := by
      refine ⟨fun once => binds.alone (locks ▸ once.buyer) (locks ▸ once.agent), fun none => ?_⟩
      rw [none, List.nil_append] at locks
      obtain ⟨buyer, agent, two, buyerRole, agentRole, binding⟩ := binds
      rw [two] at locks
      refine ⟨by simp [locks, buyerRole, agentRole], by simp [locks, buyerRole, agentRole], ?_,
        by simp⟩
      rintro _ _ ⟨rfl, rfl⟩
      exact ⟨buyer, agent, locks, buyerRole, agentRole, binding⟩
    rw [alone, nothing]
    constructor
    · rintro before _ _ ⟨rfl⟩ attempt - made
      rcases Nat.lt_trichotomy attempt clean with earlier | rfl | later
      · exact .inr (before attempt earlier)
      · exact .inl last
      · exact absurd last (made clean later)
    · intro each earlier below
      refine (each rfl escrowAmount rfl earlier (below.trans within) fun other further =>
        first other (further.trans below)).resolve_left (first earlier below)
  · have alone : Once (.failed exc) after ↔ left = [] := by
      refine ⟨fun once => ?_, fun none => ?_⟩
      · refine List.eq_nil_iff_forall_not_mem.mpr fun lock member => ?_
        simpa [Report.billIds] using once.kept exc rfl lock (locks ▸ member)
      · rw [none] at locks
        refine ⟨?_, ?_, ?_, ?_⟩ <;> simp [locks]
    rw [alone, nothing]
    constructor
    · rintro before _ _ ⟨rfl⟩ attempt within -
      exact .inr (before attempt within)
    · intro each attempt within
      exact (each rfl escrowAmount rfl attempt within fun earlier below =>
        dirty earlier (below.trans within)).resolve_left (dirty attempt within)

namespace Demo

def mined : Sent := ⟨.mined true true, 0, 0⟩

def clear : Weather where
  tokenAllowed := .ok true
  balance := .ok 5000
  allowance := .ok 5000
  buyerLock := mined
  agentAllowance := .ok 0
  approve := mined
  agentLock := mined
  bind := mined

/-- The first attempt loses its connection when it binds. -/
def interrupted : Nat → Weather
  | 0 => { clear with bind := ⟨.raised "connection reset" false, 0, 0⟩ }
  | _ => clear

theorem round_thousand : Double.round (1000 : Int) = .finite 1000 := by decide +kernel

end Demo

theorem lock_and_bind_once_demo :
    Once (lockAndBindOnchain {} (fun _ => Demo.clear) "task-1" 1000 0 {}).1
      (lockAndBindOnchain {} (fun _ => Demo.clear) "task-1" 1000 0 {}).2 := by
  refine (lock_and_bind_once {} (fun _ => Demo.clear) "task-1" 1000 0 rfl).mpr ?_
  intro _ escrowAmount rounded amountWei penaltyWei attempt _ _
  obtain rfl : 1000 = escrowAmount := by
    simpa only [Double.finite.injEq] using Demo.round_thousand.symm.trans rounded
  have amount : amountWei = 1000 := by decide +kernel
  have penalty : penaltyWei = 100 := by decide +kernel
  rw [amount, penalty]
  exact .inl ⟨⟨⟨rfl, rfl, ⟨5000, rfl, by decide⟩, 5000, rfl, by decide⟩, trivial, by decide,
    0, rfl, fun _ => trivial⟩, rfl, rfl, rfl⟩

/-- The second attempt succeeds, with locks of its own. -/
theorem lock_and_bind_twice :
    ¬Once (lockAndBindOnchain {} Demo.interrupted "task-1" 1000 0 {}).1
      (lockAndBindOnchain {} Demo.interrupted "task-1" 1000 0 {}).2 := by
  intro once
  have two : (lockAndBindOnchain {} Demo.interrupted "task-1" 1000 0 {}).2.locks.countP
      (·.role = .buyer) = 2 := by decide +kernel
  exact absurd once.buyer (by rw [two]; decide)

end TrustChain.OnchainLock
