import TrustChain.Library.Doubles

/-!
# Locking and binding a task on chain

`lock_and_bind_onchain` locks the buyer's escrow, locks the agent's penalty and binds the two
bills. Every attempt rebuilds its contract; the chain keeps what the attempts before it did.
What the calls of the chain answer in an attempt is the attempt's weather.
-/

namespace TrustChain.OnchainLock

open Library Function

/-! ## The chain -/

inductive Role where
  | buyer
  | agent
deriving DecidableEq

/-- A lock of the task that took effect. -/
structure Lock where
  role : Role
  billId : Nat
  amount : Int
deriving DecidableEq

structure Chain where
  nextBillId : Nat := 0
  nextBindingId : Nat := 0
  /-- The locks of the task. -/
  locks : List Lock := []
  bindings : Nat → Option (Nat × Nat) := fun _ => none

namespace Chain

variable (chain : Chain)

/-- `lock` mints a bill. -/
def lock (role : Role) (amount : Int) : Nat × Chain :=
  (chain.nextBillId, { chain with
    nextBillId := chain.nextBillId + 1
    locks := chain.locks ++ [⟨role, chain.nextBillId, amount⟩] })

/-- `bind` makes a binding of two bills. -/
def bind (buyerBillId agentBillId : Nat) : Nat × Chain :=
  (chain.nextBindingId, { chain with
    nextBindingId := chain.nextBindingId + 1
    bindings := update chain.bindings chain.nextBindingId (some (buyerBillId, agentBillId)) })

/-- `approve` changes an allowance only. -/
def approve : Nat × Chain := (0, chain)

/-- Bills and bindings that others make in between. -/
def elsewhere (bills bindings : Nat) : Chain :=
  { chain with
    nextBillId := chain.nextBillId + bills
    nextBindingId := chain.nextBindingId + bindings }

end Chain

/-! ## One attempt -/

inductive Outcome where
  /-- The client raised; the transaction may land all the same. -/
  | raised (exc : String) (landed : Bool)
  /-- The receipt has status 1 or not, and its event is found or lost. -/
  | mined (succeeded seen : Bool)
deriving DecidableEq

structure Sent where
  outcome : Outcome
  bills : Nat := 0
  bindings : Nat := 0

def Outcome.lands : Outcome → Bool
  | .raised _ landed => landed
  | .mined succeeded _ => succeeded

/-- What the calls of one attempt answer, in the order in which they are made. -/
structure Weather where
  tokenAllowed : Except String Bool
  balance : Except String Int
  allowance : Except String Int
  buyerLock : Sent
  agentAllowance : Except String Int
  approve : Sent
  agentLock : Sent
  bind : Sent

structure Settings where
  onchain : Bool := true
  chainAllowHotWalletPayer : Bool := true
  settlementDefaultPenaltyBps : Int := 1000

structure TaskContract where
  taskId : String
  escrowAmount : ℚ
  onchainDoLock : Bool
  onchainBuyerBillId : Option Nat := none
  onchainAgentBillId : Option Nat := none
  onchainBindingId : Option Nat := none

structure World where
  chain : Chain
  contract : TaskContract

/-- What an exception leaves is the world at the time it was raised. -/
abbrev Saga := EStateM String World

inductive TxStatus where
  | confirmed
  | failed
deriving DecidableEq

structure ChainTxResult where
  status : TxStatus
  /-- The number in the event of the receipt. -/
  event : Option Nat

/-- The answer of a read. -/
def read {α : Type} : Except String α → Saga α
  | .ok answer => pure answer
  | .error exc => throw exc

/-- `_send_tx`, and the search for the event in the receipt. -/
def sendTx (sent : Sent) (effect : Chain → Nat × Chain) : Saga ChainTxResult := do
  modify fun world => { world with chain := world.chain.elsewhere sent.bills sent.bindings }
  let world ← get
  let (number, after) := effect world.chain
  if sent.outcome.lands then
    set { world with chain := after }
  match sent.outcome with
  | .raised exc _ => throw exc
  | .mined succeeded seen =>
      pure {
        status := if succeeded then .confirmed else .failed
        event := if succeeded && seen then some number else none }

/-- The part of the dictionaries that tells what was locked. -/
structure LockReport where
  status : String
  amountWei : Option Int := none
  billId : Option Nat := none

/-- `str` of a list of texts without quotes. -/
def strList (texts : List String) : String :=
  "[" ++ ", ".intercalate (texts.map fun text => "'" ++ text ++ "'") ++ "]"

/-- `int` of a float. -/
def truncate (value : ℚ) : Int := if 0 ≤ value then ⌊value⌋ else ⌈value⌉

variable (settings : Settings) (weather : Weather)

def lockErrors (tokenAllowed : Bool) (balance allowance amountWei : Int) : List String :=
  (if tokenAllowed then [] else ["Token not allowed by KarmaBilateral"]) ++
  (if balance < amountWei then
    ["Insufficient balance: need " ++ toString amountWei ++ ", have " ++ toString balance]
  else []) ++
  (if allowance < amountWei then
    ["Insufficient allowance: need " ++ toString amountWei ++ ", approved " ++
      toString allowance]
  else [])

/-- The checks of `lock_funds`; the result is the amount. -/
def preChecks : Saga Int := do
  if !settings.chainAllowHotWalletPayer then
    throw <| "CHAIN_ALLOW_HOT_WALLET_PAYER=false: backend hot wallet may not lock " ++
      "escrow funds — funds must be locked by the user's own signature " ++
      "(client_only/external signing backend)"
  let amountWei := truncate (← get).contract.escrowAmount
  let tokenAllowed ← read weather.tokenAllowed
  let balance ← read weather.balance
  let allowance ← read weather.allowance
  let errors := lockErrors tokenAllowed balance allowance amountWei
  if errors ≠ [] then
    throw ("Lock pre-checks failed: " ++ strList errors)
  pure amountWei

/-- `lock_funds` -/
def lockFunds : Saga LockReport := do
  let amountWei ← preChecks settings weather
  if (← get).contract.onchainDoLock then
    let tx ← sendTx weather.buyerLock fun chain => chain.lock .buyer amountWei
    modify fun world =>
      if tx.event.isSome && world.contract.onchainBuyerBillId.isNone then
        { world with contract.onchainBuyerBillId := tx.event }
      else world
    let known := (← get).contract.onchainBuyerBillId
    -- A bill id of zero counts as none here.
    pure ⟨"locked", some amountWei, (tx.event.filter (· ≠ 0)).or known⟩
  else
    pure ⟨"pre_checks_passed", some amountWei, none⟩

/-- The approval in `lock_agent_penalty`; its status is not looked at. -/
def approvePenalty (penaltyWei : Int) : Saga Unit := do
  -- A missing signer, or the buyer's own, raises like the read.
  let allowance ← read weather.agentAllowance
  if allowance < penaltyWei then
    let _ ← sendTx weather.approve Chain.approve

/-- `lock_agent_penalty` -/
def lockAgentPenalty (penaltyWei : Int) : Saga LockReport := do
  if penaltyWei ≤ 0 then
    pure ⟨"skipped", none, none⟩
  else
    approvePenalty weather penaltyWei
    let tx ← sendTx weather.agentLock fun chain => chain.lock .agent penaltyWei
    match tx.event with
    | none => throw "seller lock succeeded but BillMinted event not found"
    | some billId =>
        modify fun world => { world with contract.onchainAgentBillId := some billId }
        pure ⟨"locked", none, some billId⟩

/-- `bind_bills`; the binding's number is the result. -/
def bindBills : Saga Nat := do
  match (← get).contract.onchainBuyerBillId, (← get).contract.onchainAgentBillId with
  | some buyerBill, some agentBill =>
      let tx ← sendTx weather.bind fun chain => chain.bind buyerBill agentBill
      match tx.event with
      | none => throw "bind succeeded but BillsBound event not found"
      | some bindingId =>
          modify fun world => { world with contract.onchainBindingId := some bindingId }
          pure bindingId
  | _, _ =>
      throw <| "Cannot bind: task_contract.onchain_buyer_bill_id and " ++
        "onchain_agent_bill_id are required"

structure Bound where
  buyerBillId : Option Nat
  agentBillId : Option Nat
  bindingId : Nat
  buyer : LockReport
  agent : LockReport

/-- The penalty that is locked for a given one. -/
def Settings.penaltyFor (escrowWei sellerPenaltyWei : Int) : Int :=
  if sellerPenaltyWei ≤ 0 then escrowWei * settings.settlementDefaultPenaltyBps / 10000
  else sellerPenaltyWei

/-- `_lock_and_bind` -/
def lockAndBind (sellerPenaltyWei : Int) : Saga Bound := do
  let escrowWei := truncate (← get).contract.escrowAmount
  let buyer ← lockFunds settings weather
  let agent ← lockAgentPenalty weather (settings.penaltyFor escrowWei sellerPenaltyWei)
  let bindingId ← bindBills weather
  let contract := (← get).contract
  pure ⟨contract.onchainBuyerBillId, contract.onchainAgentBillId, bindingId, buyer, agent⟩

/-! ## The task -/

/-- What a task leaves behind: a result or an exception. -/
inductive Report where
  | skipped
  | done (taskId : String) (result : Bound)
  | failed (exc : String)

/-- The bill ids in what the task leaves behind; the contract of an attempt is dropped with it. -/
def Report.billIds : Report → List Nat
  | .skipped | .failed _ => []
  | .done _ result => result.buyerBillId.toList ++ result.agentBillId.toList

/-- The attempts from one on, of which `retries` may follow when it raises. -/
def attempts (weather : Nat → Weather) (contract : TaskContract) (sellerPenaltyWei : Int) :
    (retries attempt : Nat) → Chain → Report × Chain
  | retries, attempt, chain =>
      match (lockAndBind settings (weather attempt) sellerPenaltyWei).run ⟨chain, contract⟩ with
      | .ok result world => (.done contract.taskId result, world.chain)
      | .error exc world =>
          match retries with
          | 0 => (.failed exc, world.chain)
          | retries + 1 =>
              attempts weather contract sellerPenaltyWei retries (attempt + 1) world.chain

/-- `max_retries` -/
def maxRetries : Nat := 3

/-- `lock_and_bind_onchain` with all its retries. -/
def lockAndBindOnchain (weather : Nat → Weather) (taskId : String)
    (escrowWei sellerPenaltyWei : Int) (chain : Chain) : Report × Chain :=
  if !settings.onchain then (.skipped, chain)
  else
    match Double.round escrowWei with
    | .finite escrowAmount =>
        attempts settings weather { taskId, escrowAmount, onchainDoLock := true } sellerPenaltyWei
          maxRetries 0 chain
    -- Building the contract is outside of what is retried.
    | _ => (.failed "int too large to convert to float", chain)

end TrustChain.OnchainLock
