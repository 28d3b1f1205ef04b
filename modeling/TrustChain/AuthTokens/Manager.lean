import TrustChain.Bilateral.Types
import TrustChain.Library.Encoding
import TrustChain.Library.Transition

/-!
# AuthTokenManager

An owner issues an agent a token for one operation up to an amount; whoever shows a
signature of the owner over the token and the terms of its use consumes it. Identifiers and
digests are hashes of packed strings.
-/

namespace TrustChain

/-- `uint256`. -/
abbrev Uint256 := BitVec 256

namespace AuthTokens

open Library Function

inductive OperationType where
  | createBill
  | confirmBill
  | cancelBill
  | setThreshold
  deriving DecidableEq

/-- The value of the enumeration as `uint8`. -/
def OperationType.toUint8 : OperationType → BitVec 8
  | .createBill => 0
  | .confirmBill => 1
  | .cancelBill => 2
  | .setThreshold => 3

structure AuthToken (Hash : Type) [Inhabited Hash] where
  tokenId : Hash := default
  owner : Address := 0
  agent : Address := 0
  opType : OperationType := .createBill
  maxAmount : Uint256 := 0
  validUntil : Uint256 := 0
  used : Bool := false
  nonce : Uint256 := 0
  deriving DecidableEq

inductive Error where
  | invalidAddress
  | invalidAmount
  | unauthorized
  | tokenUsed
  | notFound
  | invalidToken
  | deadlineExpired
  | digestAlreadyUsed
  | invalidSignature
  | panic
  deriving DecidableEq

/-- The two functions of the platform, and what the constructor reads. The zero hash is the
default one; `ecrecover` answers zero where a signature is invalid. -/
structure Deployment (Hash : Type) where
  keccak256 : List (Symbol Hash) → Hash
  ecrecover : Hash → BitVec 8 → Uint256 → Uint256 → Address
  chainid : Uint256
  self : Address

/-- Sender and block of a transaction. Nobody sends from the zero address, and no
transaction runs in the block at time zero. -/
structure Message where
  sender : Address
  timestamp : Uint256
  chainid : Uint256
  sender_ne_zero : sender ≠ 0
  timestamp_pos : 0 < timestamp

structure Storage (Hash : Type) [Inhabited Hash] where
  authTokens : Hash → AuthToken Hash := fun _ => {}
  ownerNonce : Address → Uint256 := fun _ => 0
  usedDigests : Hash → Bool := fun _ => false

/-- Addition that reverts when the sum does not fit in a word. -/
def checkedSum (left right : Uint256) : Except Error Uint256 :=
  if left.toNat + right.toNat < wordSize then .ok (left + right) else .error .panic

/-! ## Hashes -/

namespace Deployment

variable {Hash : Type} (deployment : Deployment Hash)

/-- The identifier of a token, of `abi.encodePacked` of seven fields. -/
def tokenId (sender agent : Address) (opType : OperationType)
    (maxAmount nonce validUntil chainid : Uint256) : Hash :=
  deployment.keccak256 (Symbol.ofWord 20 sender ++ (Symbol.ofWord 20 agent ++
    (Symbol.ofWord 1 opType.toUint8 ++ (Symbol.ofWord 32 maxAmount ++ (Symbol.ofWord 32 nonce ++
      (Symbol.ofWord 32 validUntil ++ (Symbol.ofWord 32 chainid ++ [])))))))

def domainSeparator : Hash :=
  deployment.keccak256
    (.hash (deployment.keccak256 (Symbol.ofText
        "EIP712Domain(string name,string version,uint256 chainId,address verifyingContract)")) ::
      .hash (deployment.keccak256 (Symbol.ofText "KarmaAuth")) ::
      .hash (deployment.keccak256 (Symbol.ofText "1")) ::
      (Symbol.ofWord 32 deployment.chainid ++ Symbol.ofWord 32 deployment.self))

/-- `EIP712Auth.hashAuth`. -/
def hashAuth (tokenId : Hash) (agent : Address) (opType : BitVec 8)
    (amount nonce deadline : Uint256) : Hash :=
  deployment.keccak256
    (.hash (deployment.keccak256 (Symbol.ofText
        ("Auth(bytes32 tokenId,address agent,uint8 opType,uint256 amount,uint256 nonce," ++
          "uint256 deadline)"))) ::
      .hash tokenId ::
      (Symbol.ofWord 32 agent ++ (Symbol.ofWord 32 opType ++ (Symbol.ofWord 32 amount ++
        (Symbol.ofWord 32 nonce ++ (Symbol.ofWord 32 deadline ++ []))))))

/-- The digest that the owner of a token signs for one use of it. -/
def authDigest (tokenId : Hash) (agent : Address) (opType : OperationType)
    (amount nonce deadline : Uint256) : Hash :=
  deployment.keccak256
    [.byte 0x19, .byte 0x01, .hash deployment.domainSeparator,
      .hash (deployment.hashAuth tokenId agent opType.toUint8 amount nonce deadline)]

/-- Half the order of the curve. -/
def secp256k1nDiv2 : Uint256 := 0x7FFFFFFFFFFFFFFFFFFFFFFFFFFFFFFF5D576E7357A4501DDFE92F46681B20A0

/-- `SignatureValidator.recoverStrict`. -/
def recoverStrict (digest : Hash) (v : BitVec 8) (r s : Uint256) : Address :=
  if r = 0 ∨ s = 0 then 0
  else if secp256k1nDiv2 < s then 0
  else if v ≠ 27 ∧ v ≠ 28 then 0
  else deployment.ecrecover digest v r s

end Deployment

/-! ## Functions -/

section Functions

variable {Hash : Type} [Inhabited Hash] [DecidableEq Hash] (deployment : Deployment Hash)
  (msg : Message) (storage : Storage Hash)

/-- Issue a token; the value is its identifier. -/
def issueAuthToken (agent : Address) (opType : OperationType)
    (maxAmount validitySeconds : Uint256) : Except Error (Hash × Storage Hash) := do
  require (agent ≠ 0) .invalidAddress
  require (¬(maxAmount = 0 ∨ validitySeconds = 0)) .invalidAmount
  let nonce ← checkedSum (storage.ownerNonce msg.sender) 1
  let validUntil ← checkedSum msg.timestamp validitySeconds
  let tokenId := deployment.tokenId msg.sender agent opType maxAmount nonce validUntil msg.chainid
  .ok (tokenId, { storage with
    ownerNonce := update storage.ownerNonce msg.sender nonce
    authTokens := update storage.authTokens tokenId {
      tokenId, owner := msg.sender, agent, opType, maxAmount, validUntil, used := false, nonce } })

def revokeAuthToken (tokenId : Hash) : Except Error (Storage Hash) := do
  let token := storage.authTokens tokenId
  require (token.owner = msg.sender) .unauthorized
  require (token.used = false) .tokenUsed
  .ok { storage with
    authTokens := update storage.authTokens tokenId { token with used := true } }

/-- `validateAuth`, asked at `timestamp`. -/
def validateAuth (timestamp : Uint256) (tokenId : Hash) (agent : Address)
    (opType : OperationType) (amount : Uint256) : Bool :=
  let token := storage.authTokens tokenId
  if token.agent ≠ agent then false
  else if token.opType ≠ opType then false
  else if token.used then false
  else if token.validUntil < timestamp then false
  else if token.maxAmount < amount then false
  else true

def getAuthDigest (tokenId : Hash) (agent : Address) (opType : OperationType)
    (amount deadline : Uint256) : Hash :=
  deployment.authDigest tokenId agent opType amount (storage.authTokens tokenId).nonce deadline

def consumeAuth (tokenId : Hash) (agent : Address) (opType : OperationType)
    (amount deadline : Uint256) (v : BitVec 8) (r s : Uint256) : Except Error (Storage Hash) := do
  let token := storage.authTokens tokenId
  require (token.owner ≠ 0) .notFound
  require (token.agent = agent) .invalidToken
  require (token.opType = opType) .invalidToken
  require (token.used = false) .tokenUsed
  require (¬(amount = 0 ∨ token.maxAmount < amount)) .invalidAmount
  require (¬(deadline < msg.timestamp ∨ token.validUntil < msg.timestamp ∨
    token.validUntil < deadline)) .deadlineExpired
  let digest := getAuthDigest deployment storage tokenId agent opType amount deadline
  require (storage.usedDigests digest = false) .digestAlreadyUsed
  let recovered := deployment.recoverStrict digest v r s
  require (¬(recovered = 0 ∨ recovered ≠ token.owner)) .invalidSignature
  .ok { storage with
    usedDigests := update storage.usedDigests digest true
    authTokens := update storage.authTokens tokenId { token with used := true } }

end Functions

/-! ## The contract over time -/

/-- A transaction that succeeded; an issue is recorded with the identifier it returned. -/
inductive Transaction (Hash : Type) where
  | issueAuthToken (msg : Message) (agent : Address) (opType : OperationType)
      (maxAmount validitySeconds : Uint256) (tokenId : Hash)
  | revokeAuthToken (msg : Message) (tokenId : Hash)
  | consumeAuth (msg : Message) (tokenId : Hash) (agent : Address) (opType : OperationType)
      (amount deadline : Uint256) (v : BitVec 8) (r s : Uint256)

namespace Transaction

variable {Hash : Type}

def msg : Transaction Hash → Message
  | .issueAuthToken msg .. => msg
  | .revokeAuthToken msg _ => msg
  | .consumeAuth msg .. => msg

/-- The token a transaction is about. -/
def tokenId : Transaction Hash → Hash
  | .issueAuthToken _ _ _ _ _ tokenId => tokenId
  | .revokeAuthToken _ tokenId => tokenId
  | .consumeAuth _ tokenId .. => tokenId

def isIssue : Transaction Hash → Bool
  | .issueAuthToken .. => true
  | _ => false

end Transaction

structure World (Hash : Type) [Inhabited Hash] where
  storage : Storage Hash := {}
  now : Uint256 := 0

section System

variable {Hash : Type} [Inhabited Hash] [DecidableEq Hash] (deployment : Deployment Hash)

/-- What a transaction leaves, if it succeeds with the value it is recorded with. -/
def dispatch (storage : Storage Hash) : Transaction Hash → Option (Storage Hash)
  | .issueAuthToken msg agent opType maxAmount validitySeconds tokenId => do
      let issued ← (AuthTokens.issueAuthToken deployment msg storage agent opType maxAmount
        validitySeconds).toOption
      if issued.1 = tokenId then some issued.2 else none
  | .revokeAuthToken msg tokenId => (AuthTokens.revokeAuthToken msg storage tokenId).toOption
  | .consumeAuth msg tokenId agent opType amount deadline v r s =>
      (AuthTokens.consumeAuth deployment msg storage tokenId agent opType amount deadline v r
        s).toOption

/-- Run a transaction, no earlier than the one before. -/
def perform (world : World Hash) (transaction : Transaction Hash) : Option (World Hash) :=
  if world.now ≤ transaction.msg.timestamp then
    (dispatch deployment world.storage transaction).map fun storage =>
      ⟨storage, transaction.msg.timestamp⟩
  else none

/-- The contract from its deployment on, called by anybody. -/
def system : TransitionSystem (World Hash) (Transaction Hash) where
  Init world := world.storage = {}
  Step world transaction next := perform deployment world transaction = some next

end System

end AuthTokens

end TrustChain
