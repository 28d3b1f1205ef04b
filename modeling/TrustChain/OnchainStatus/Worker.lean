import TrustChain.Bilateral.System
import TrustChain.Library.OrderedTable

/-!
# The worker's on-chain tasks

`run_onchain_settlement` sends a transaction and then writes its outcome into the settlement of
the task; `finalize_onchain_settlement` and `reconcile_onchain_status` run periodically. Between
the two halves of a settlement anything else may happen. The chain is the contract, its time
and its tokens; an exception of a task is followed by a retry, which is one more step of it.
-/

namespace TrustChain.OnchainStatus

open Library

/-- What the column `onchain_status` says. -/
inductive Label where
  | active
  | pending
  | finalizing
  | settled
  | disputed
  | refunded
  | refund
  | disputePending
deriving DecidableEq

/-- `STATE_MAP`, which covers all states. -/
def stateLabel : Bilateral.BindingState → Label
  | .active => .active
  | .pending => .pending
  | .finalizing => .finalizing
  | .settled => .settled
  | .disputed => .disputed
  | .refunded => .refunded

inductive TxStatus where
  | confirmed
  | failed
deriving DecidableEq

/-- A mined transaction; it stands for its hash as well. -/
structure ChainTxResult where
  call : Bilateral.Call
  status : TxStatus

structure TaskContract where
  onchainBindingId : Option Nat := none
  onchainBuyerBillId : Option Nat := none
  onchainAgentBillId : Option Nat := none

/-- A row of `settlements`. -/
structure Settlement where
  onchainStatus : Option Label := none
  txHash : Option ChainTxResult := none
  onchainBindingId : Option Nat := none
  onchainBuyerBillId : Option Nat := none
  onchainAgentBillId : Option Nat := none

/-! ## What is written -/

/-- The part of a refund's or a dispute's answer that is persisted. -/
structure Info where
  txHash : Option ChainTxResult := none
  bindingId : Option Nat := none

def TaskContract.persistHandles (contract : TaskContract) (row : Settlement) : Settlement :=
  { row with
    onchainBindingId := contract.onchainBindingId.or row.onchainBindingId
    onchainBuyerBillId := contract.onchainBuyerBillId.or row.onchainBuyerBillId
    onchainAgentBillId := contract.onchainAgentBillId.or row.onchainAgentBillId }

/-- `_persist_chain_result` -/
def persistChainResult (txResult : ChainTxResult) (onchainStatus : Label)
    (contract : TaskContract) (row : Settlement) : Settlement :=
  contract.persistHandles { row with
    txHash := some txResult
    onchainStatus := some onchainStatus }

/-- `_persist_chain_or_offchain_result` -/
def persistChainOrOffchainResult (onchainStatus : Label) (info : Info) (contract : TaskContract)
    (row : Settlement) : Settlement :=
  contract.persistHandles { row with
    onchainStatus := some onchainStatus
    txHash := info.txHash.or row.txHash
    onchainBindingId := info.bindingId.or row.onchainBindingId }

/-- What a settlement is about to write. -/
inductive Write where
  | chainResult (taskId : String) (txResult : ChainTxResult) (onchainStatus : Label)
      (contract : TaskContract)
  | chainOrOffchainResult (taskId : String) (onchainStatus : Label) (info : Info)
      (contract : TaskContract)

namespace Write

def taskId : Write → String
  | .chainResult taskId .. | .chainOrOffchainResult taskId .. => taskId

def apply : Write → Settlement → Settlement
  | .chainResult _ txResult onchainStatus contract =>
      persistChainResult txResult onchainStatus contract
  | .chainOrOffchainResult _ onchainStatus info contract =>
      persistChainOrOffchainResult onchainStatus info contract

end Write

structure World where
  chain : Bilateral.World
  settlements : OrderedTable String Settlement := .empty
  /-- The settlements that have sent their transaction and write next. -/
  writes : List Write := []

/-! ## Transactions -/

inductive Outcome where
  /-- The client raised; the transaction may land all the same. -/
  | raised (landed : Bool)
  | mined (status : TxStatus)
deriving DecidableEq

structure Sending (deployment : Bilateral.Deployment) where
  msg : Bilateral.Message deployment
  ext : Bilateral.Externals
  outcome : Outcome

variable {deployment : Bilateral.Deployment}

/-- `_send_tx`: the chain after it, and the result unless it raised. There is none if the contract
does not let the transaction through that should land. -/
def sendTx (sending : Sending deployment) (call : Bilateral.Call) (chain : Bilateral.World) :
    Option (Bilateral.World × Option ChainTxResult) :=
  let landing := Bilateral.perform deployment chain (.call sending.msg sending.ext call)
  match sending.outcome with
  | .raised false => some (chain, none)
  | .raised true => landing.map fun next => (next, none)
  | .mined .confirmed => landing.map fun next => (next, some ⟨call, .confirmed⟩)
  | .mined .failed => some (chain, some ⟨call, .failed⟩)

/-! ## `run_onchain_settlement` -/

inductive Decision where
  | release
  | refund
  | hold
  | dispute
deriving DecidableEq

/-- The call of `release_payment` -/
def releasePayment (contract : TaskContract) (proofHash : Bytes32) :
    Except String Bilateral.Call :=
  match contract.onchainBindingId with
  | some bindingId => .ok (.settle bindingId proofHash)
  | none =>
      .error "Cannot settle: task_contract.onchain_binding_id is required for KarmaBilateral"

/-- The call of `refund_payment` and the binding id in its answer, if it is not `offchain_only`. -/
def refundPayment (contract : TaskContract) : Option (Bilateral.Call × Option Nat) :=
  match contract.onchainBindingId, contract.onchainBuyerBillId with
  | some bindingId, _ => some (.refundOnTimeout bindingId, some bindingId)
  | none, some buyerBill => some (.unlock buyerBill, none)
  | none, none => none

/-- The call of `open_dispute` and the binding id in its answer, if it is not `offchain_only`. -/
def openDispute (contract : TaskContract) (bundleHash : Bytes32) :
    Option (Bilateral.Call × Option Nat) :=
  contract.onchainBindingId.map fun bindingId => (.dispute bindingId bundleHash, some bindingId)

/-- A refund or a dispute: send the call, if there is one, and write one of two labels. -/
def sendOrNote (world : World) (taskId : String) (contract : TaskContract)
    (sending : Sending deployment) (confirmed otherwise : Label) :
    Option (Bilateral.Call × Option Nat) → Option World
  | none => some { world with
      writes := world.writes ++ [.chainOrOffchainResult taskId otherwise {} contract] }
  | some (call, bindingId) => do
      let (chain, result) ← sendTx sending call world.chain
      match result with
      | none => some { world with chain }
      | some tx =>
          let status := if tx.status = .confirmed then confirmed else otherwise
          some { world with
            chain
            writes := world.writes ++
              [.chainOrOffchainResult taskId status ⟨some tx, bindingId⟩ contract] }

/-- `run_onchain_settlement`, up to its writing. -/
def runOnchainSettlement (world : World) (taskId : String) (contract : TaskContract)
    (bundleHash : Bytes32) (sending : Sending deployment) : Decision → Option World
  | .release =>
      match releasePayment contract bundleHash with
      | .error _ => some world
      | .ok call => do
          let (chain, result) ← sendTx sending call world.chain
          match result with
          | none => some { world with chain }
          | some tx => some { world with
              chain
              writes := world.writes ++ [.chainResult taskId tx .finalizing contract] }
  | .refund | .hold =>
      sendOrNote world taskId contract sending .refunded .refund (refundPayment contract)
  | .dispute =>
      sendOrNote world taskId contract sending .disputed .disputePending
        (openDispute contract bundleHash)

/-! ## The periodic tasks -/

/-- `finalizeAfter` -/
def finalizeAfter (chain : Bilateral.World) (bindingId : Nat) : Nat :=
  let binding := chain.storage.bindings bindingId
  if binding.state = .finalizing then
    binding.settleSubmittedAt + chain.storage.config.disputeWindow
  else 0

/-- What the calls for one binding meet. -/
structure Attempt (deployment : Bilateral.Deployment) where
  read : Bool
  sending : Sending deployment

/-- The loop body of `_finalize_due_bindings`, with the number of bindings finalized. -/
def finalizeBinding (now : Nat) (attempt : Attempt deployment) (bindingId : Nat)
    (state : Bilateral.World × Nat) : Option (Bilateral.World × Nat) :=
  let due := finalizeAfter state.1 bindingId
  if attempt.read ∧ due ≠ 0 ∧ due ≤ now then do
    let (chain, result) ← sendTx attempt.sending (.finalizeSettle bindingId) state.1
    let confirmed := result.any fun tx => tx.status = .confirmed
    some (chain, if confirmed then state.2 + 1 else state.2)
  else some state

def finalizingBindings (settlements : OrderedTable String Settlement) : List Nat :=
  settlements.rows.filterMap fun row =>
    if row.2.onchainStatus = some .finalizing then row.2.onchainBindingId else none

/-- `_finalize_due_bindings` -/
def finalizeDueBindings (world : World) (now : Nat) (attempts : Nat → Attempt deployment) :
    Option (World × Nat) := do
  let (chain, finalized) ← (finalizingBindings world.settlements).zipIdx.foldlM
    (fun state bindingId => finalizeBinding now (attempts bindingId.2) bindingId.1 state)
    (world.chain, 0)
  some ({ world with chain }, finalized)

/-- `NOT IN`, which is neither true nor false for a missing value. -/
def sqlNotIn (value : Option Label) (labels : List Label) : Option Bool :=
  value.map fun label => decide (label ∉ labels)

/-- The rows that `_reconcile_onchain_status` selects. -/
def Settlement.selected (row : Settlement) : Bool :=
  row.onchainBindingId.isSome && (sqlNotIn row.onchainStatus [.settled, .refunded] = some true)

/-- The loop body of `_reconcile_onchain_status`; `read` tells whether the chain answers. -/
def reconcileRow (chain : Bilateral.World) (read : Bool) (row : Settlement) : Settlement :=
  match row.onchainBindingId with
  | some bindingId =>
      let chainState := stateLabel (chain.storage.bindings bindingId).state
      if row.selected && read && row.onchainStatus ≠ some chainState then
        { row with onchainStatus := some chainState }
      else row
  | none => row

/-- `_reconcile_onchain_status`, with the number of rows it changes. -/
def reconcileOnchainStatus (world : World) (reads : String → Bool) : World × Nat :=
  let reconciled (taskId : String) (row : Settlement) : Settlement :=
    reconcileRow world.chain (reads taskId) row
  ({ world with settlements := world.settlements.map reconciled },
    world.settlements.rows.countP fun row =>
      (reconciled row.1 row.2).onchainStatus ≠ row.2.onchainStatus)

/-! ## The system -/

inductive Action (deployment : Bilateral.Deployment) where
  /-- A settlement is made for a task. -/
  | create (taskId : String)
  | settle (taskId : String) (contract : TaskContract) (bundleHash : Bytes32)
      (decision : Decision) (sending : Sending deployment)
  /-- One of the settlements under way writes. -/
  | persist (position : Nat)
  | finalize (now : Nat) (attempts : Nat → Attempt deployment)
  | reconcile (reads : String → Bool)
  /-- Somebody else moves the contract or a token. -/
  | elsewhere (action : Bilateral.Action deployment)

/-- Perform an action, if it is possible now. -/
def perform (world : World) : Action deployment → Option World
  | .create taskId =>
      if (world.settlements.get taskId).isSome then none
      else some { world with settlements := world.settlements.set taskId {} }
  | .settle taskId contract bundleHash decision sending =>
      runOnchainSettlement world taskId contract bundleHash sending decision
  | .persist position =>
      world.writes[position]?.map fun write => { world with
        settlements := world.settlements.modify write.taskId write.apply
        writes := world.writes.eraseIdx position }
  | .finalize now attempts => (finalizeDueBindings world now attempts).map Prod.fst
  | .reconcile reads => some (reconcileOnchainStatus world reads).1
  | .elsewhere action =>
      (Bilateral.perform deployment world.chain action).map fun chain => { world with chain }

/-- The worker's database starts with settlements that have no label. -/
def system (deployment : Bilateral.Deployment) :
    TransitionSystem World (Action deployment) where
  Init world := (Bilateral.system deployment).Reachable world.chain ∧ world.writes = [] ∧
    ∀ taskId row, world.settlements.get taskId = some row → row.onchainStatus = none
  Step world action next := perform world action = some next

end TrustChain.OnchainStatus
