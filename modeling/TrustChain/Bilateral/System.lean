import TrustChain.Bilateral.Operations
import TrustChain.Library.Transition

/-!
# The contract as a transition system

A run interleaves successful transactions, by any senders and with any answers of the
other contracts, with the token operations of everybody but the contract itself. A
transaction that reverts leaves no trace, so it is no step.
-/

namespace TrustChain.Bilateral

open Library Function

/-- The external functions, with their arguments. -/
inductive Call where
  | lock (token : Address) (amount : Nat)
  | bind (buyerBillId agentBillId : Nat) (scopeHash : Bytes32)
  | bindWithAttestation (buyerBillId agentBillId : Nat) (scopeHash taskId : Bytes32)
  | bindWithIntent (intent : IntentPackage) (buyerBillId agentBillId : Nat)
  | settle (bindingId : Nat) (proofHash : Bytes32)
  | finalizeSettle (bindingId : Nat)
  | dispute (bindingId : Nat) (evidenceHash : Bytes32)
  | submitArbitrationEvidence (bindingId : Nat) (evidenceHash : Bytes32)
  | autoResolveArbitration (bindingId : Nat)
  | settleWithTEE (bindingId : Nat) (proofHash : Bytes32) (teeAttestation : List UInt8)
  | settleWithZKProof (bindingId : Nat) (proofHash : Bytes32) (zkProof : List UInt8)
  | resolveDispute (bindingId buyerShareBps : Nat)
  | refundOnTimeout (bindingId : Nat)
  | unlock (billId : Nat)
  | authorize (token : Address) (amount : Nat) («to» : Address) (expiresAt : Nat)
  | accept (authId : Nat)
  | cancelAuthorization (authId : Nat)
  | setter (setter : Setter)

/-- The effect of a transaction on a world whose clock already shows its block. -/
def dispatch (deployment : Deployment) (ext : Externals) (msg : Message deployment)
    (world : World) : Call → Except Error World
  | .lock token amount => Prod.snd <$> lock deployment ext msg world token amount
  | .bind buyerBillId agentBillId scopeHash =>
      Prod.snd <$> bind deployment msg world buyerBillId agentBillId scopeHash
  | .bindWithAttestation buyerBillId agentBillId scopeHash taskId =>
      Prod.snd <$> bindWithAttestation deployment msg world buyerBillId agentBillId scopeHash taskId
  | .bindWithIntent intent buyerBillId agentBillId =>
      Prod.snd <$> bindWithIntent deployment msg world intent buyerBillId agentBillId
  | .settle bindingId proofHash => settle deployment ext msg world bindingId proofHash
  | .finalizeSettle bindingId => finalizeSettle deployment ext msg world bindingId
  | .dispute bindingId evidenceHash => dispute deployment msg world bindingId evidenceHash
  | .submitArbitrationEvidence bindingId evidenceHash =>
      submitArbitrationEvidence deployment msg world bindingId evidenceHash
  | .autoResolveArbitration bindingId => autoResolveArbitration deployment ext msg world bindingId
  | .settleWithTEE bindingId proofHash teeAttestation =>
      settleWithTEE world bindingId proofHash teeAttestation
  | .settleWithZKProof bindingId proofHash zkProof =>
      settleWithZKProof world bindingId proofHash zkProof
  | .resolveDispute bindingId buyerShareBps =>
      resolveDispute deployment ext msg world bindingId buyerShareBps
  | .refundOnTimeout bindingId => refundOnTimeout deployment ext msg world bindingId
  | .unlock billId => unlock deployment ext msg world billId
  | .authorize token amount target expiresAt =>
      Prod.snd <$> authorize deployment msg world token amount target expiresAt
  | .accept authId => accept deployment msg world authId
  | .cancelAuthorization authId => cancelAuthorization deployment msg world authId
  | .setter setter => world.configured <$> runSetter deployment msg.sender world.storage setter

/-- One transaction. -/
def exec (deployment : Deployment) (ext : Externals) (msg : Message deployment) (call : Call)
    (world : World) : Except Error World :=
  dispatch deployment ext msg { world with now := msg.timestamp } call

/-- What can happen next: a transaction, or a token operation of somebody else. -/
inductive Action (deployment : Deployment) where
  | call (msg : Message deployment) (ext : Externals) (call : Call)
  | token (token : Address) (operation : Erc20.Operation Address)

/-- Perform an action, if it is possible now. -/
def perform (deployment : Deployment) (world : World) : Action deployment → Option World
  | .call msg ext call =>
      if world.now ≤ msg.timestamp then (exec deployment ext msg call world).toOption else none
  | .token token operation =>
      if operation.caller = some deployment.self then none
      else ((world.tokens token).run operation).map fun ledger =>
        { world with tokens := update world.tokens token ledger }

/-- The contract and its tokens. Before deployment the contract has approved nobody. -/
def system (deployment : Deployment) : TransitionSystem World (Action deployment) where
  Init world := world.storage = {} ∧ world.status = 1 ∧ world.tokenCalls = [] ∧
    ∀ token spender, (world.tokens token).allowance deployment.self spender = 0
  Step world action next := perform deployment world action = some next

section Steps

variable {deployment : Deployment} {world next : World}

theorem step_call {msg : Message deployment} {ext : Externals} {call : Call} :
    (system deployment).Step world (.call msg ext call) next ↔
      world.now ≤ msg.timestamp ∧ exec deployment ext msg call world = .ok next := by
  change perform deployment world (.call msg ext call) = some next ↔ _
  simp only [perform]
  by_cases later : world.now ≤ msg.timestamp
  · rw [if_pos later]
    cases exec deployment ext msg call world <;> simp [Except.toOption, later]
  · simp [later]

theorem step_token {token : Address} {operation : Erc20.Operation Address} :
    (system deployment).Step world (.token token operation) next ↔
      operation.caller ≠ some deployment.self ∧
      ∃ ledger, (world.tokens token).run operation = some ledger ∧
        next = { world with tokens := update world.tokens token ledger } := by
  change perform deployment world (.token token operation) = some next ↔ _
  simp only [perform]
  by_cases own : operation.caller = some deployment.self
  · simp [own]
  · simp [own, eq_comm]

end Steps

/-! ## A small deployment to run the contract on -/

namespace Demo

def deployment : Deployment := ⟨1, 2, by decide, fun intent => BitVec.ofNat 256 intent.amount⟩

def admin : Address := 2
def buyer : Address := 3
def agent : Address := 4
def usd : Address := 5
def bridge : Address := 6

/-- Buyer and agent hold 1000 units each and have approved the contract for them. -/
def ledger : Erc20 Address where
  balanceOf account := if account = buyer ∨ account = agent then 1000 else 0
  allowance owner spender :=
    if (owner = buyer ∨ owner = agent) ∧ spender = deployment.self then 1000 else 0

def start : World := { tokens := fun token => if token = usd then ledger else .empty }

theorem start_init : (system deployment).Init start := by
  refine ⟨rfl, rfl, rfl, ?_⟩
  intro token spender
  by_cases isUsd : token = usd
  · simp [start, isUsd, ledger, deployment, buyer, agent]
  · simp [start, isUsd, Erc20.empty]

/-- A transaction of `sender` at `timestamp`; an impossible sender is replaced. -/
def message (sender : Address) (timestamp : Nat) : Message deployment :=
  if possible : sender ≠ 0 ∧ sender ≠ deployment.self ∧ 0 < timestamp then
    ⟨sender, timestamp, possible.1, possible.2.1, possible.2.2⟩
  else ⟨admin, 1, by decide, by decide, by decide⟩

def call (sender : Address) (timestamp : Nat) (call : Call) (ext : Externals := {}) :
    Action deployment :=
  .call (message sender timestamp) ext call

abbrev Scene := Library.Scene (perform deployment) start

theorem Scene.run (scene : Scene) : (system deployment).Run start scene.actions scene.world :=
  Library.Scene.run (fun _ _ _ performed => performed) scene

theorem Scene.reachable (scene : Scene) : (system deployment).Reachable scene.world :=
  ⟨start, scene.actions, start_init, scene.run⟩

theorem Scene.step (scene : Scene) (action : Action deployment)
    (possible : (TransitionSystem.follow (perform deployment) start
      (scene.actions ++ [action])).isSome) :
    (system deployment).Step scene.world action (scene.next action possible).world :=
  scene.performed action possible

/-- Bill 1 is the agent's, bill 2 the buyer's, 50 units each. -/
def locked : Scene where
  actions := [call admin 1000 (.setter (.setTokenAllowed usd true)), call agent 1000 (.lock usd 50),
    call buyer 1000 (.lock usd 50)]
  possible := by decide +kernel

/-- The buyer has bound both bills in binding 1. -/
def bound : Scene := locked.next (call buyer 1000 (.bind 2 1 0)) (by decide +kernel)

/-- The buyer submits a settlement after the delay, under a window of one day. -/
def submitted : Scene := bound.next (call buyer 2800 (.settle 1 9)) (by decide +kernel)

/-- The settlement is disputed. -/
def disputed : Scene := submitted.next (call buyer 3000 (.dispute 1 8)) (by decide +kernel)

/-- The settlement is not disputed, and a fee bridge is set. -/
def bridged : Scene :=
  submitted.next (call admin 3000 (.setter (.setFeeBridge bridge))) (by decide +kernel)

/-- The settlement is finalized after the window, and the bridge quotes 7 units. -/
def finalized : Scene :=
  bridged.next (call agent 89200 (.finalizeSettle 1) { quoteFee := fun _ _ => some 7 })
    (by decide +kernel)

end Demo

end TrustChain.Bilateral
