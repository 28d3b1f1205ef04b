import TrustChain.Bilateral.Types
import TrustChain.Library.Transition

/-!
# KarmaIdentityRegistry

A master identity adds up to three active sub-agents, each a wallet under an identifier, and
sets what they may spend. The settlement contract is asked for bound and free balances.
-/

namespace TrustChain.SubAgents

open Library Function

inductive SubAgentStatus where
  | active
  | inactive
  deriving DecidableEq

structure SubAgent where
  subWallet : Address := 0
  subAgentId : Bytes32 := 0
  master : Address := 0
  allowance : Nat := 0
  status : SubAgentStatus := .active
  addedAt : Nat := 0
  removedAt : Nat := 0
  deriving DecidableEq

structure KarmaIdentity where
  masterWallet : Address := 0
  masterAgentId : Bytes32 := 0
  registered : Bool := false

inductive Error where
  | identityAlreadyRegistered (addr : Address)
  | identityNotFound (addr : Address)
  | subAgentLimitReached (master : Address)
  | subAgentAlreadyAdded (sub : Address)
  | allowanceExceedsFreeBalance (total free : Nat)
  | subAgentNotFound (sub : Address)
  | subAgentHasBoundBalance (sub : Address) (bound : Nat)
  | zeroAddress
  | zeroAmount
  | panic
  | externalCallFailed
  deriving DecidableEq

instance : ArithmeticPanic Error := ⟨.panic⟩

/-- Sender and block of a transaction. Nobody sends from the zero address, and no
transaction runs in the block at time zero. -/
structure Message where
  sender : Address
  timestamp : Nat
  sender_ne_zero : sender ≠ 0
  timestamp_pos : 0 < timestamp

/-- How the settlement contract answers during one call; `none` where its call reverts. -/
structure Balances where
  boundBalance : Address → Option Nat
  freeBalance : Address → Option Nat

structure Storage where
  identities : Address → KarmaIdentity := fun _ => {}
  masterSubAgentIds : Address → List Bytes32 := fun _ => []
  subAgentById : Bytes32 → SubAgent := fun _ => {}
  subAgentMaster : Address → Address := fun _ => 0
  activeSubAgents : Address → Nat := fun _ => 0

/-- The answer of an external call, or a revert. -/
def answered (answer : Option Nat) : Except Error Nat :=
  match answer with
  | some value => .ok value
  | none => .error .externalCallFailed

/-- `_findActiveSubAgentId`, from an entry of the list on. -/
def findActiveSubAgentId (subAgentById : Bytes32 → SubAgent) (subWallet : Address) :
    List Bytes32 → Except Error Bytes32
  | [] => .error (.subAgentNotFound subWallet)
  | subAgentId :: rest =>
      if (subAgentById subAgentId).subWallet = subWallet ∧
          (subAgentById subAgentId).status = .active then .ok subAgentId
      else findActiveSubAgentId subAgentById subWallet rest

/-- The loop of `setSubAgentAllowance`, from an entry of the list on. -/
def addAllowances (subAgentById : Bytes32 → SubAgent) (totalAllowance : Nat) :
    List Bytes32 → Except Error Nat
  | [] => .ok totalAllowance
  | subAgentId :: rest =>
      if (subAgentById subAgentId).status = .active then do
        let totalAllowance ← checkedAdd totalAllowance (subAgentById subAgentId).allowance
        addAllowances subAgentById totalAllowance rest
      else addAllowances subAgentById totalAllowance rest

section Functions

variable (balances : Balances) (msg : Message) (storage : Storage)

/-- `_requireIdentity`. -/
def requireIdentity (addr : Address) : Except Error Unit :=
  require ((storage.identities addr).registered = true) (.identityNotFound addr)

def registerIdentity (masterAgentId : Bytes32) : Except Error Storage := do
  require ((storage.identities msg.sender).registered = false)
    (.identityAlreadyRegistered msg.sender)
  .ok { storage with
    identities := update storage.identities msg.sender ⟨msg.sender, masterAgentId, true⟩ }

def addSubAgent (subWallet : Address) (subAgentId : Bytes32) : Except Error Storage := do
  requireIdentity storage msg.sender
  require (subWallet ≠ 0) .zeroAddress
  require (subAgentId ≠ 0) .zeroAmount
  require (storage.activeSubAgents msg.sender < 3) (.subAgentLimitReached msg.sender)
  require (storage.subAgentMaster subWallet = 0) (.subAgentAlreadyAdded subWallet)
  require ((storage.subAgentById subAgentId).addedAt = 0) (.subAgentAlreadyAdded subWallet)
  -- The counter is a `uint8`.
  require (storage.activeSubAgents msg.sender + 1 < 2 ^ 8) .panic
  .ok { storage with
    subAgentById := update storage.subAgentById subAgentId
      { subWallet, subAgentId, master := msg.sender, allowance := 0, status := .active,
        addedAt := msg.timestamp, removedAt := 0 }
    masterSubAgentIds := update storage.masterSubAgentIds msg.sender
      (storage.masterSubAgentIds msg.sender ++ [subAgentId])
    subAgentMaster := update storage.subAgentMaster subWallet msg.sender
    activeSubAgents := update storage.activeSubAgents msg.sender
      (storage.activeSubAgents msg.sender + 1) }

def removeSubAgent (subWallet : Address) : Except Error Storage := do
  requireIdentity storage msg.sender
  let subAgentId ← findActiveSubAgentId storage.subAgentById subWallet
    (storage.masterSubAgentIds msg.sender)
  let bound ← answered (balances.boundBalance subWallet)
  require (bound = 0) (.subAgentHasBoundBalance subWallet bound)
  let active ← checkedSub (storage.activeSubAgents msg.sender) 1
  .ok { storage with
    subAgentById := update storage.subAgentById subAgentId
      { storage.subAgentById subAgentId with
        status := .inactive
        allowance := 0
        removedAt := msg.timestamp }
    activeSubAgents := update storage.activeSubAgents msg.sender active }

def setSubAgentAllowance (subWallet : Address) (allowance : Nat) : Except Error Storage := do
  requireIdentity storage msg.sender
  let subAgentId ← findActiveSubAgentId storage.subAgentById subWallet
    (storage.masterSubAgentIds msg.sender)
  let subAgentById := update storage.subAgentById subAgentId
    { storage.subAgentById subAgentId with allowance }
  let totalAllowance ← addAllowances subAgentById 0 (storage.masterSubAgentIds msg.sender)
  let free ← answered (balances.freeBalance msg.sender)
  require (totalAllowance ≤ free) (.allowanceExceedsFreeBalance totalAllowance free)
  .ok { storage with subAgentById }

end Functions

/-! ## Views -/

/-- `getSubAgents`. -/
def Storage.getSubAgents (storage : Storage) (master : Address) : List SubAgent :=
  ((storage.masterSubAgentIds master).map storage.subAgentById).filter fun subAgent =>
    subAgent.status = .active

/-! ## The contract over time -/

/-- The external functions that change the registry. -/
inductive Call where
  | registerIdentity (masterAgentId : Bytes32)
  | addSubAgent (subWallet : Address) (subAgentId : Bytes32)
  | removeSubAgent (subWallet : Address)
  | setSubAgentAllowance (subWallet : Address) (allowance : Nat)

/-- A call with its sender and the answers it gets. -/
structure Transaction where
  msg : Message
  balances : Balances
  call : Call

def dispatch (storage : Storage) (transaction : Transaction) : Except Error Storage :=
  match transaction.call with
  | .registerIdentity masterAgentId => registerIdentity transaction.msg storage masterAgentId
  | .addSubAgent subWallet subAgentId => addSubAgent transaction.msg storage subWallet subAgentId
  | .removeSubAgent subWallet =>
      removeSubAgent transaction.balances transaction.msg storage subWallet
  | .setSubAgentAllowance subWallet allowance =>
      setSubAgentAllowance transaction.balances transaction.msg storage subWallet allowance

/-- The registry from its deployment on, called by anybody. -/
def registry : TransitionSystem Storage Transaction where
  Init storage := storage = {}
  Step storage transaction next := dispatch storage transaction = .ok next

end TrustChain.SubAgents
