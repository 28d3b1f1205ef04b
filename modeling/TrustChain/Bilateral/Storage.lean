import TrustChain.Bilateral.Types

/-!
# Storage and surroundings of KarmaBilateral

The contract's storage, the ERC-20 ledgers and the call that is being executed. The
variables that only the administration functions write are grouped in `Config`; the
rest of the storage is laid out as in the source. What the contract cannot know in
advance, the answers of the emergency guard, of the fee bridge and of the tokens, is
an input of each call (`Externals`).
-/

namespace TrustChain.Bilateral

open Library Function

/-- Variables written by the administration functions alone. -/
structure Config where
  emergencyGuard : Address := 0
  tokenAllowed : Address → Bool := fun _ => false
  batchThreshold : Address → Nat := fun _ => 0
  disputeWindowSeconds : Nat := 30 * 60
  disputeWindow : Nat := 24 * 60 * 60
  evidenceWindow : Nat := 72 * 60 * 60
  autoArbitrationThreshold : Nat := 100000000
  settleTimeoutSeconds : Nat := 7 * 24 * 60 * 60
  largeDisputeTimeoutSeconds : Nat := 7 * 24 * 60 * 60
  attestationGateway : Address := 0
  treasury : Address := 0
  feeBridge : Address := 0
  bindingDeveloper : Nat → Address := fun _ => 0

/-- The storage. The two identifier counters are incremented unchecked in the source;
they count transactions, so their word size is never met and they are plain numbers. -/
structure Storage where
  config : Config := {}
  billCounter : Nat := 0
  bindingCounter : Nat := 0
  bills : Nat → BillToken := fun _ => {}
  bindings : Nat → Binding := fun _ => {}
  intentPackages : Nat → IntentPackage := fun _ => {}
  ownerBills : Address → List Nat := fun _ => []
  totalBillSupply : Address → Nat := fun _ => 0
  totalLocked : Address → Nat := fun _ => 0
  pendingBatchAmount : Address → Nat := fun _ => 0
  arbitrations : Nat → ArbitrationRecord := fun _ => {}
  bindingTaskId : Nat → Bytes32 := fun _ => 0
  requiresAttestation : Nat → Bool := fun _ => false
  freeBalance : Address → Nat := fun _ => 0
  boundBalance : Address → Nat := fun _ => 0
  totalMintedByAddr : Address → Nat := fun _ => 0
  totalLockedByAddr : Address → Nat := fun _ => 0
  authCounter : Nat := 0
  authorizations : Nat → Authorization := fun _ => {}
  pendingAuths : Address → List Nat := fun _ => []

/-- Storage, reentrancy flag, token ledgers, the calls the contract has made on tokens
and the events it has emitted, and the time of the latest block. -/
structure World where
  storage : Storage := {}
  status : Nat := 1
  tokens : Address → Erc20 Address := fun _ => .empty
  tokenCalls : List TokenCall := []
  events : List Event := []
  now : Nat := 0

/-- What is fixed at deployment: the contract's own address, its administrator, and
`keccak256(abi.encode(intent))`. -/
structure Deployment where
  self : Address
  admin : Address
  admin_ne_zero : admin ≠ 0
  hashIntent : IntentPackage → Bytes32

/-- Sender and block of a transaction. The contract calls none of its own entry points,
and no transaction is sent from the zero address or executed in the genesis block. -/
structure Message (deployment : Deployment) where
  sender : Address
  timestamp : Nat
  sender_ne_zero : sender ≠ 0
  sender_ne_self : sender ≠ deployment.self
  timestamp_pos : 0 < timestamp

/-- The functions without the reentrancy guard. -/
inductive Setter where
  | setEmergencyGuard (guard : Address)
  | setTokenAllowed (token : Address) (allowed : Bool)
  | setBatchThreshold (token : Address) (threshold : Nat)
  | setDisputeWindow (seconds : Nat)
  | setOptimisticDisputeWindow (seconds : Nat)
  | setEvidenceWindow (seconds : Nat)
  | setAutoArbitrationThreshold (amount : Nat)
  | setSettleTimeout (seconds : Nat)
  | setLargeDisputeTimeout (seconds : Nat)
  | setAttestationGateway (gateway : Address)
  | setTreasury (treasury : Address)
  | setFeeBridge (feeBridge : Address)
  | setBindingDeveloper (bindingId : Nat) (developer : Address)

/-- Something that happens while the fee bridge is being called: a movement of tokens,
or a call of an unguarded function of the contract by any sender. -/
inductive Reentry where
  | token (token : Address) (operation : Erc20.Operation Address)
  | setter (sender : Address) (setter : Setter)

/-- How the other contracts answer during one call.

* `payoutBlocked`: the emergency guard; `none` if its call reverts.
* `quoteFee`: the fee bridge's quote for a developer and an amount; `none` if the call
  fails or returns less than a word.
* `collects`, `reentries`: whether `collectAndRecord` returns, and what happens in it.
* `refuses`: transfers a token declines although its ledger would allow them.
* `refusalReverts`: whether a token signals a refusal by reverting or by `false`.
* `approves`: whether a token's `approve` returns. -/
structure Externals where
  payoutBlocked : Nat → Nat → Nat → Address → Address → Option (Bool × Nat × Nat) :=
    fun _ _ _ _ _ => some (false, 0, 0)
  quoteFee : Address → Nat → Option Nat := fun _ _ => none
  collects : Bool := true
  reentries : List Reentry := []
  refuses : Address → Address → Address → Bool := fun _ _ _ => false
  refusalReverts : Address → Bool := fun _ => true
  approves : Address → Bool := fun _ => true

namespace Storage

/-- `records[id] = value`, if there is a value to write. -/
def writeSome {α : Type} (records : Nat → α) (id : Nat) : Option α → Nat → α
  | none => records
  | some value => update records id value

/-! ## Internal checks and counters -/

def requireBill (storage : Storage) (billId : Nat) : Except Error BillToken := do
  require ((storage.bills billId).mintedAt ≠ 0) (.billNotMinted billId)
  .ok (storage.bills billId)

def requireBinding (storage : Storage) (bindingId : Nat) : Except Error Binding := do
  require ((storage.bindings bindingId).createdAt ≠ 0) (.bindingNotFound bindingId)
  .ok (storage.bindings bindingId)

def requireBillState (billId : Nat) (actual expected : BillState) : Except Error Unit :=
  require (actual = expected) (.wrongBillState billId expected actual)

def requireAuth (storage : Storage) (authId : Nat) : Except Error Authorization := do
  require ((storage.authorizations authId).createdAt ≠ 0) (.authorizationNotFound authId)
  .ok (storage.authorizations authId)

def checkPerAddressInvariant (storage : Storage) (addr : Address) : Except Error Unit := do
  let free := storage.freeBalance addr
  let bound := storage.boundBalance addr
  let minted := storage.totalMintedByAddr addr
  let sum ← checkedAdd free bound
  require (sum = minted) (.perAddressInvariantBroken addr free bound minted)

def moveFreeToBound (storage : Storage) (addr : Address) (amount : Nat) :
    Except Error Storage := do
  require (amount ≤ storage.freeBalance addr)
    (.insufficientFreeBalance addr (storage.freeBalance addr) amount)
  let free ← checkedDebit storage.freeBalance addr amount
  let bound ← checkedCredit storage.boundBalance addr amount
  .ok { storage with freeBalance := free, boundBalance := bound }

def decrementBound (storage : Storage) (addr : Address) (amount : Nat) :
    Except Error Storage := do
  let bound ← checkedDebit storage.boundBalance addr amount
  let minted ← checkedDebit storage.totalMintedByAddr addr amount
  let locked ← checkedDebit storage.totalLockedByAddr addr amount
  .ok { storage with boundBalance := bound, totalMintedByAddr := minted, totalLockedByAddr := locked }

def setBinding (storage : Storage) (bindingId : Nat) (binding : Binding) : Storage :=
  { storage with bindings := update storage.bindings bindingId binding }

def setArbitration (storage : Storage) (bindingId : Nat) (record : ArbitrationRecord) : Storage :=
  { storage with arbitrations := update storage.arbitrations bindingId record }

/-- `_requirePayoutNotFrozen`. -/
def requirePayoutNotFrozen (ext : Externals) (storage : Storage) (bindingId : Nat) :
    Except Error Unit :=
  if storage.config.emergencyGuard = 0 ∨ bindingId = 0 then .ok ()
  else
    let b := storage.bindings bindingId
    match ext.payoutBlocked bindingId b.buyerBillId b.agentBillId
        (storage.bills b.buyerBillId).owner (storage.bills b.agentBillId).owner with
    | none => .error .externalCallFailed
    | some (blocked, scope, until_) => require (blocked = false) (.fundsFrozen scope until_)

end Storage

namespace World

def emit (world : World) (event : Event) : World :=
  { world with events := world.events ++ [event] }

/-- The first half of `nonReentrant`. -/
def enter (world : World) : Except Error World := do
  require (world.status ≠ 2) .reentrancy
  .ok { world with status := 2 }

/-- The second half of `nonReentrant`. -/
def leave (world : World) : World := { world with status := 1 }

/-- The error a caller sees when a token refuses a transfer. -/
def refusal (ext : Externals) (token : Address) : Error :=
  if ext.refusalReverts token then .externalCallFailed else .transferFailed

/-- `IERC20Min(token).transferFrom(source, address(this), amount)`. -/
def transferFrom (deployment : Deployment) (ext : Externals) (world : World)
    (token source : Address) (amount : Nat) : Except Error World :=
  if ext.refuses token source deployment.self then .error (refusal ext token)
  else
    match (world.tokens token).transferFrom deployment.self source deployment.self amount with
    | none => .error (refusal ext token)
    | some ledger =>
        .ok { world with
          tokens := update world.tokens token ledger
          tokenCalls := world.tokenCalls ++ [.pull token source amount] }

/-- `_transfer`. -/
def transfer (deployment : Deployment) (ext : Externals) (world : World)
    (token target : Address) (amount : Nat) : Except Error World :=
  if ext.refuses token deployment.self target then .error (refusal ext token)
  else
    match (world.tokens token).transfer deployment.self target amount with
    | none => .error (refusal ext token)
    | some ledger =>
        .ok { world with
          tokens := update world.tokens token ledger
          tokenCalls := world.tokenCalls ++ [.pay token target amount] }

/-- `if (amount > 0) _transfer(token, target, amount)`. -/
def transferPositive (deployment : Deployment) (ext : Externals) (world : World)
    (token target : Address) (amount : Nat) : Except Error World :=
  if 0 < amount then world.transfer deployment ext token target amount else .ok world

/-- A successful `approve` of the spender by the contract. -/
def approve (deployment : Deployment) (world : World) (token spender : Address)
    (amount : Nat) : World :=
  { world with
    tokens := update world.tokens token ((world.tokens token).approve deployment.self spender amount)
    tokenCalls := world.tokenCalls ++ [.allow token spender amount] }

def checkInvariant (world : World) (token : Address) : Except Error World := do
  let supply := world.storage.totalBillSupply token
  let locked := world.storage.totalLocked token
  require (supply = locked) (.invariantBroken token supply locked)
  .ok (world.emit (.invariantChecked token supply locked))

/-- `_burnBill`: only the state of the bill changes. -/
def burnBill (world : World) (billId : Nat) (bill : BillToken) (reason : String) :
    Except Error World := do
  let storage := world.storage
  let supply ← checkedDebit storage.totalBillSupply bill.token bill.amount
  let locked ← checkedDebit storage.totalLocked bill.token bill.amount
  let world := { world with
    storage := { storage with
      bills := update storage.bills billId { bill with state := .burned }
      totalBillSupply := supply
      totalLocked := locked } }
  .ok (world.emit (.billBurned billId bill.owner bill.amount reason))

end World

/-! ## Administration functions -/

section Setters

variable (deployment : Deployment) (sender : Address) (storage : Storage)

/-- `onlyAdmin`, then a check of the argument, one assignment and its event. A setter
fails or returns the configuration it leaves behind, with the event it emits. -/
def configure (check : Except Error Unit) (config : Config) (event : Event) :
    Except Error (Config × Event) := do
  require (sender = deployment.admin) .unauthorized
  check
  .ok (config, event)

def setEmergencyGuard (guard : Address) : Except Error (Config × Event) :=
  configure deployment sender (.ok ())
    { storage.config with emergencyGuard := guard } (.emergencyGuardUpdated guard)

def setTokenAllowed (token : Address) (allowed : Bool) : Except Error (Config × Event) :=
  configure deployment sender (require (token ≠ 0) .zeroAddress)
    { storage.config with tokenAllowed := update storage.config.tokenAllowed token allowed }
    (.tokenAllowed token allowed)

def setBatchThreshold (token : Address) (threshold : Nat) : Except Error (Config × Event) :=
  configure deployment sender (.ok ())
    { storage.config with batchThreshold := update storage.config.batchThreshold token threshold }
    (.batchThresholdUpdated token threshold)

def setDisputeWindow (seconds : Nat) : Except Error (Config × Event) :=
  configure deployment sender (.ok ())
    { storage.config with disputeWindowSeconds := seconds } (.disputeWindowUpdated seconds)

def setOptimisticDisputeWindow (seconds : Nat) : Except Error (Config × Event) :=
  configure deployment sender (.ok ())
    { storage.config with disputeWindow := seconds } (.optimisticDisputeWindowUpdated seconds)

def setEvidenceWindow (seconds : Nat) : Except Error (Config × Event) :=
  configure deployment sender (.ok ())
    { storage.config with evidenceWindow := seconds } (.evidenceWindowUpdated seconds)

def setAutoArbitrationThreshold (amount : Nat) : Except Error (Config × Event) :=
  configure deployment sender (.ok ())
    { storage.config with autoArbitrationThreshold := amount }
    (.autoArbitrationThresholdUpdated amount)

def setSettleTimeout (seconds : Nat) : Except Error (Config × Event) :=
  configure deployment sender (.ok ())
    { storage.config with settleTimeoutSeconds := seconds } (.settleTimeoutUpdated seconds)

def setLargeDisputeTimeout (seconds : Nat) : Except Error (Config × Event) :=
  configure deployment sender (require (24 * 60 * 60 ≤ seconds) .invalidSplit)
    { storage.config with largeDisputeTimeoutSeconds := seconds }
    (.largeDisputeTimeoutUpdated seconds)

def setAttestationGateway (gateway : Address) : Except Error (Config × Event) :=
  configure deployment sender (require (gateway ≠ 0) .invalidAddress)
    { storage.config with attestationGateway := gateway } (.attestationGatewayUpdated gateway)

def setTreasury (treasury : Address) : Except Error (Config × Event) :=
  configure deployment sender (.ok ())
    { storage.config with treasury := treasury } (.treasuryUpdated treasury)

def setFeeBridge (feeBridge : Address) : Except Error (Config × Event) :=
  configure deployment sender (.ok ())
    { storage.config with feeBridge := feeBridge } (.feeBridgeUpdated feeBridge)

def setBindingDeveloper (bindingId : Nat) (developer : Address) :
    Except Error (Config × Event) := do
  let b := storage.bindings bindingId
  require (b.bindingId ≠ 0) (.bindingNotFound bindingId)
  require (b.state = .active ∨ b.state = .pending ∨ b.state = .finalizing)
    (.wrongBindingState bindingId .active b.state)
  let buyerBill := storage.bills b.buyerBillId
  let agentBill := storage.bills b.agentBillId
  require (sender = deployment.admin ∨ sender = buyerBill.owner ∨ sender = agentBill.owner)
    .unauthorized
  let developers := update storage.config.bindingDeveloper bindingId developer
  .ok ({ storage.config with bindingDeveloper := developers },
    .bindingDeveloperUpdated bindingId developer)

def runSetter : Setter → Except Error (Config × Event)
  | .setEmergencyGuard guard => setEmergencyGuard deployment sender storage guard
  | .setTokenAllowed token allowed => setTokenAllowed deployment sender storage token allowed
  | .setBatchThreshold token threshold =>
      setBatchThreshold deployment sender storage token threshold
  | .setDisputeWindow seconds => setDisputeWindow deployment sender storage seconds
  | .setOptimisticDisputeWindow seconds =>
      setOptimisticDisputeWindow deployment sender storage seconds
  | .setEvidenceWindow seconds => setEvidenceWindow deployment sender storage seconds
  | .setAutoArbitrationThreshold amount =>
      setAutoArbitrationThreshold deployment sender storage amount
  | .setSettleTimeout seconds => setSettleTimeout deployment sender storage seconds
  | .setLargeDisputeTimeout seconds => setLargeDisputeTimeout deployment sender storage seconds
  | .setAttestationGateway gateway => setAttestationGateway deployment sender storage gateway
  | .setTreasury treasury => setTreasury deployment sender storage treasury
  | .setFeeBridge feeBridge => setFeeBridge deployment sender storage feeBridge
  | .setBindingDeveloper bindingId developer =>
      setBindingDeveloper deployment sender storage bindingId developer

end Setters

/-! ## Reentrant calls -/

def World.configured (world : World) (written : Config × Event) : World :=
  World.emit { world with storage.config := written.1 } written.2

/-- One thing that happens inside the bridge's call. A call that fails changes nothing,
and so does every call of a guarded function, since the flag is raised meanwhile. -/
def runReentry (deployment : Deployment) (world : World) : Reentry → World
  | .token token operation =>
      if operation.caller = some deployment.self then world
      else
        match (world.tokens token).run operation with
        | some ledger => { world with tokens := update world.tokens token ledger }
        | none => world
  | .setter sender setter =>
      match runSetter deployment sender world.storage setter with
      | .ok written => world.configured written
      | .error _ => world

/-- Everything that happens inside the bridge's call. -/
def reenter (deployment : Deployment) (world : World) (reentries : List Reentry) : World :=
  reentries.foldl (fun world reentry => runReentry deployment world reentry) world

end TrustChain.Bilateral
