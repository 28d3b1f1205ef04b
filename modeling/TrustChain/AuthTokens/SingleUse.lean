import TrustChain.AuthTokens.Manager

/-!
# Tokens are used once

The transactions on one token are an issue, followed by at most one revocation or
consumption, in every run. A consumption keeps to the terms of the issue and carries the
issuer's signature.
-/

namespace TrustChain.AuthTokens

open Library Function

section Tokens

variable {Hash : Type} {deployment : Deployment Hash}

/-! ## Distinct tokens and terms have distinct hashes -/

theorem OperationType.toUint8_injective : Injective OperationType.toUint8 := by
  intro opType other
  cases opType <;> cases other <;> decide

/-- An identifier tells the owner and the nonce. -/
theorem tokenId_inj (injective : Injective deployment.keccak256)
    {sender other agent another : Address} {opType otherType : OperationType}
    {maxAmount otherAmount nonce otherNonce validUntil otherUntil chainid otherChain : Uint256}
    (same : deployment.tokenId sender agent opType maxAmount nonce validUntil chainid =
      deployment.tokenId other another otherType otherAmount otherNonce otherUntil otherChain) :
    sender = other ∧ nonce = otherNonce := by
  have packed := injective same
  simp only [Symbol.ofWord_append_inj (show 160 ≤ 8 * 20 by decide),
    Symbol.ofWord_append_inj (show 8 ≤ 8 * 1 by decide),
    Symbol.ofWord_append_inj (show 256 ≤ 8 * 32 by decide)] at packed
  obtain ⟨senders, -, -, -, nonces, -⟩ := packed
  exact ⟨senders, nonces⟩

/-- What an owner signs: one use of one token. -/
structure Authorization (Hash : Type) where
  tokenId : Hash
  agent : Address
  opType : OperationType
  amount : Uint256
  nonce : Uint256
  deadline : Uint256

def Authorization.digest (deployment : Deployment Hash) (signed : Authorization Hash) : Hash :=
  deployment.authDigest signed.tokenId signed.agent signed.opType signed.amount signed.nonce
    signed.deadline

theorem Authorization.digest_injective (injective : Injective deployment.keccak256) :
    Injective (Authorization.digest deployment) := by
  rintro ⟨tokenId, agent, opType, amount, nonce, deadline⟩
    ⟨otherId, otherAgent, otherType, otherAmount, otherNonce, otherDeadline⟩ same
  have inner := injective same
  simp only [List.cons.injEq, true_and, and_true, Symbol.hash.injEq] at inner
  have packed := injective inner
  simp only [List.cons.injEq, true_and, Symbol.hash.injEq,
    Symbol.ofWord_append_inj (show 160 ≤ 8 * 32 by decide),
    Symbol.ofWord_append_inj (show 8 ≤ 8 * 32 by decide),
    Symbol.ofWord_append_inj (show 256 ≤ 8 * 32 by decide)] at packed
  obtain ⟨rfl, rfl, types, rfl, rfl, rfl, -⟩ := packed
  rw [OperationType.toUint8_injective types]

theorem recoverStrict_eq {digest : Hash} {v : BitVec 8} {r s : Uint256}
    (recovers : deployment.recoverStrict digest v r s ≠ 0) :
    deployment.recoverStrict digest v r s = deployment.ecrecover digest v r s := by
  unfold Deployment.recoverStrict at *
  split_ifs at * with missing high parity
  · exact absurd rfl recovers
  · exact absurd rfl recovers
  · exact absurd rfl recovers
  · rfl

/-! ## The life of a token -/

variable [Inhabited Hash]

/-- An issue that succeeded, with the nonce it took. -/
structure Grant where
  msg : Message
  agent : Address
  opType : OperationType
  maxAmount : Uint256
  validitySeconds : Uint256
  nonce : Uint256
  fits : msg.timestamp.toNat + validitySeconds.toNat < wordSize

namespace Grant

variable (grant : Grant)

def validUntil : Uint256 := grant.msg.timestamp + grant.validitySeconds

def tokenId (deployment : Deployment Hash) : Hash :=
  deployment.tokenId grant.msg.sender grant.agent grant.opType grant.maxAmount grant.nonce
    grant.validUntil grant.msg.chainid

def issue (tokenId : Hash) : Transaction Hash :=
  .issueAuthToken grant.msg grant.agent grant.opType grant.maxAmount grant.validitySeconds tokenId

def token (tokenId : Hash) : AuthToken Hash where
  tokenId := tokenId
  owner := grant.msg.sender
  agent := grant.agent
  opType := grant.opType
  maxAmount := grant.maxAmount
  validUntil := grant.validUntil
  nonce := grant.nonce

end Grant

/-- A consumption: the values passed, and the signature shown. -/
structure Use where
  msg : Message
  agent : Address
  opType : OperationType
  amount : Uint256
  deadline : Uint256
  v : BitVec 8
  r : Uint256
  s : Uint256

def Use.consume (use : Use) (tokenId : Hash) : Transaction Hash :=
  .consumeAuth use.msg tokenId use.agent use.opType use.amount use.deadline use.v use.r use.s

/-- What the owner has to sign for the use. -/
def Use.authorization (use : Use) (tokenId : Hash) (nonce : Uint256) : Authorization Hash where
  tokenId := tokenId
  agent := use.agent
  opType := use.opType
  amount := use.amount
  nonce := nonce
  deadline := use.deadline

/-- The use keeps to the terms of the token. -/
structure Use.Honours (use : Use) (token : AuthToken Hash) : Prop where
  agent_eq : use.agent = token.agent
  opType_eq : use.opType = token.opType
  positive : 0 < use.amount
  within : use.amount ≤ token.maxAmount
  onTime : use.msg.timestamp ≤ use.deadline
  unexpired : use.deadline ≤ token.validUntil

/-- The transactions on one token so far, and its record. -/
inductive Life (deployment : Deployment Hash) (tokenId : Hash) :
    List (Transaction Hash) → AuthToken Hash → Prop
  | unissued : Life deployment tokenId [] {}
  | issued (grant : Grant) :
      grant.tokenId deployment = tokenId →
      Life deployment tokenId [grant.issue tokenId] (grant.token tokenId)
  | revoked (grant : Grant) (msg : Message) :
      grant.tokenId deployment = tokenId →
      Life deployment tokenId [grant.issue tokenId, .revokeAuthToken msg tokenId]
        { grant.token tokenId with used := true }
  | consumed (grant : Grant) (use : Use) :
      grant.tokenId deployment = tokenId →
      use.Honours (grant.token tokenId) →
      deployment.ecrecover ((use.authorization tokenId grant.nonce).digest deployment)
        use.v use.r use.s = grant.msg.sender →
      Life deployment tokenId [grant.issue tokenId, use.consume tokenId]
        { grant.token tokenId with used := true }

namespace Life

variable {tokenId : Hash} {transactions : List (Transaction Hash)} {token : AuthToken Hash}

/-- A token whose record has an owner was issued. -/
theorem granted (life : Life deployment tokenId transactions token) (owned : token.owner ≠ 0) :
    ∃ grant : Grant, grant.tokenId deployment = tokenId ∧ token.owner = grant.msg.sender ∧
      token.nonce = grant.nonce := by
  cases life with
  | unissued => exact absurd rfl owned
  | issued grant named => exact ⟨grant, named, rfl, rfl⟩
  | revoked grant msg named => exact ⟨grant, named, rfl, rfl⟩
  | consumed grant use named => exact ⟨grant, named, rfl, rfl⟩

theorem unowned (life : Life deployment tokenId transactions token) (unowned : token.owner = 0) :
    transactions = [] ∧ token = {} := by
  cases life with
  | unissued => exact ⟨rfl, rfl⟩
  | issued grant => exact absurd unowned grant.msg.sender_ne_zero
  | revoked grant => exact absurd unowned grant.msg.sender_ne_zero
  | consumed grant => exact absurd unowned grant.msg.sender_ne_zero

/-- A record that has an owner and is not used is that of an issue alone. -/
theorem open_issued (life : Life deployment tokenId transactions token) (owned : token.owner ≠ 0)
    (unused : token.used = false) :
    ∃ grant : Grant, grant.tokenId deployment = tokenId ∧
      transactions = [grant.issue tokenId] ∧ token = grant.token tokenId := by
  cases life with
  | unissued => exact absurd rfl owned
  | issued grant named => exact ⟨grant, named, rfl, rfl⟩
  | revoked => exact absurd unused Bool.true_eq_false.mp
  | consumed => exact absurd unused Bool.true_eq_false.mp

end Life

/-! ## One transaction -/

theorem validateAuth_iff {storage : Storage Hash} {timestamp : Uint256} {tokenId : Hash}
    {agent : Address} {opType : OperationType} {amount : Uint256} :
    validateAuth storage timestamp tokenId agent opType amount = true ↔
      (storage.authTokens tokenId).agent = agent ∧ (storage.authTokens tokenId).opType = opType ∧
      (storage.authTokens tokenId).used = false ∧
      timestamp ≤ (storage.authTokens tokenId).validUntil ∧
      amount ≤ (storage.authTokens tokenId).maxAmount := by
  unfold validateAuth
  constructor
  · intro valid
    dsimp only at valid
    split_ifs at valid with agents types used expired exceeded
    exact ⟨not_not.mp agents, not_not.mp types, Bool.eq_false_of_not_eq_true used,
      BitVec.not_lt.mp expired, BitVec.not_lt.mp exceeded⟩
  · rintro ⟨agents, types, used, unexpired, within⟩
    simp [agents, types, used, BitVec.not_lt.mpr unexpired, BitVec.not_lt.mpr within]

variable [DecidableEq Hash] {tokenId : Hash}

/-- The transactions on one token, oldest first. -/
def about (tokenId : Hash) (transactions : List (Transaction Hash)) : List (Transaction Hash) :=
  transactions.filter fun transaction => transaction.tokenId = tokenId

omit [Inhabited Hash] in
@[simp] theorem about_append (tokenId : Hash) (transactions more : List (Transaction Hash)) :
    about tokenId (transactions ++ more) = about tokenId transactions ++ about tokenId more :=
  List.filter_append _ _

/-- Every token has led its life, and no nonce of an owner is beyond its counter. -/
structure Kept (deployment : Deployment Hash) (transactions : List (Transaction Hash))
    (storage : Storage Hash) : Prop where
  life : ∀ tokenId, Life deployment tokenId (about tokenId transactions)
    (storage.authTokens tokenId)
  counted : ∀ tokenId, (storage.authTokens tokenId).owner ≠ 0 →
    (storage.authTokens tokenId).nonce ≤ storage.ownerNonce (storage.authTokens tokenId).owner

theorem checkedSum_bind_eq_ok {left right : Uint256} {α : Type} {rest : Uint256 → Except Error α}
    {result : α} :
    (checkedSum left right >>= rest) = .ok result ↔
      left.toNat + right.toNat < wordSize ∧ rest (left + right) = .ok result := by
  by_cases fits : left.toNat + right.toNat < wordSize <;> simp [checkedSum, fits]

theorem issueAuthToken_ok {msg : Message} {storage next : Storage Hash} {agent : Address}
    {opType : OperationType} {maxAmount validitySeconds : Uint256}
    (issued : issueAuthToken deployment msg storage agent opType maxAmount validitySeconds =
      .ok (tokenId, next)) :
    ∃ grant : Grant, .issueAuthToken msg agent opType maxAmount validitySeconds tokenId =
        grant.issue tokenId ∧
      grant.tokenId deployment = tokenId ∧
      storage.ownerNonce grant.msg.sender < grant.nonce ∧
      next = { storage with
        ownerNonce := update storage.ownerNonce grant.msg.sender grant.nonce
        authTokens := update storage.authTokens tokenId (grant.token tokenId) } := by
  simp only [issueAuthToken, require_bind_eq_ok, checkedSum_bind_eq_ok, Except.ok.injEq,
    Prod.mk.injEq] at issued
  obtain ⟨-, -, counts, fits, rfl, rfl⟩ := issued
  refine ⟨⟨msg, agent, opType, maxAmount, validitySeconds, storage.ownerNonce msg.sender + 1, fits⟩,
    rfl, rfl, ?_, rfl⟩
  rw [BitVec.lt_def, BitVec.toNat_add_of_lt counts]
  exact Nat.lt_succ_self _

theorem consumeAuth_ok (use : Use) {storage next : Storage Hash}
    (consumed : consumeAuth deployment use.msg storage tokenId use.agent use.opType use.amount
      use.deadline use.v use.r use.s = .ok next) :
    (storage.authTokens tokenId).owner ≠ 0 ∧ (storage.authTokens tokenId).used = false ∧
      use.Honours (storage.authTokens tokenId) ∧
      deployment.ecrecover ((use.authorization tokenId
        (storage.authTokens tokenId).nonce).digest deployment) use.v use.r use.s =
          (storage.authTokens tokenId).owner ∧
      next = { storage with
        usedDigests := next.usedDigests
        authTokens := update storage.authTokens tokenId
          { storage.authTokens tokenId with used := true } } := by
  simp only [consumeAuth, require_bind_eq_ok, Except.ok.injEq, not_or, not_not, BitVec.not_lt]
    at consumed
  obtain ⟨owned, agents, types, unused, ⟨positive, within⟩, ⟨onTime, -, unexpired⟩, -,
    ⟨recovers, owners⟩, rfl⟩ := consumed
  have positive : 0 < use.amount := (BitVec.pos_iff_ne_zero _).mpr positive
  refine ⟨owned, unused, ⟨agents.symm, types.symm, positive, within, onTime, unexpired⟩, ?_, rfl⟩
  rw [← owners]
  exact (recoverStrict_eq recovers).symm

theorem revokeAuthToken_ok {msg : Message} {storage next : Storage Hash}
    (revoked : revokeAuthToken msg storage tokenId = .ok next) :
    (storage.authTokens tokenId).owner = msg.sender ∧
      (storage.authTokens tokenId).used = false ∧
      next = { storage with
        authTokens := update storage.authTokens tokenId
          { storage.authTokens tokenId with used := true } } := by
  simp only [revokeAuthToken, require_bind_eq_ok, Except.ok.injEq] at revoked
  obtain ⟨owned, unused, rfl⟩ := revoked
  exact ⟨owned, unused, rfl⟩

section Steps

variable {world next : World Hash} {transactions : List (Transaction Hash)}
  {transaction : Transaction Hash} {storage : Storage Hash}

/-- A transaction on one token that keeps the counters leaves the lives of the others. -/
theorem Kept.advance (kept : Kept deployment transactions storage)
    (transaction : Transaction Hash) {token : AuthToken Hash}
    {ownerNonce : Address → Uint256} {usedDigests : Hash → Bool}
    (life : Life deployment transaction.tokenId
      (about transaction.tokenId transactions ++ [transaction]) token)
    (counted : token.nonce ≤ ownerNonce token.owner)
    (grows : ∀ owner, storage.ownerNonce owner ≤ ownerNonce owner) :
    Kept deployment (transactions ++ [transaction])
      ⟨update storage.authTokens transaction.tokenId token, ownerNonce, usedDigests⟩ := by
  constructor
  · intro tokenId
    by_cases here : transaction.tokenId = tokenId
    · subst here
      simpa [about] using life
    · have elsewhere : about tokenId [transaction] = [] := by simp [about, here]
      rw [about_append, elsewhere, List.append_nil]
      simpa [update_of_ne (Ne.symm here)] using kept.life tokenId
  · intro tokenId owned
    by_cases here : tokenId = transaction.tokenId
    · subst here
      simpa using counted
    · simp only [update_of_ne here] at owned ⊢
      exact BitVec.le_trans (kept.counted tokenId owned) (grows _)

theorem Kept.step (injective : Injective deployment.keccak256)
    (kept : Kept deployment transactions world.storage)
    (step : (system deployment).Step world transaction next) :
    Kept deployment (transactions ++ [transaction]) next.storage := by
  change perform deployment world transaction = some next at step
  simp only [perform] at step
  split_ifs at step with later
  obtain ⟨storage, dispatched, rfl⟩ := Option.map_eq_some_iff.mp step
  cases transaction with
  | issueAuthToken msg agent opType maxAmount validitySeconds tokenId =>
      simp only [dispatch, Option.bind_eq_bind, Option.bind_eq_some_iff, toOption_eq_some,
        Option.ite_none_right_eq_some, Option.some.injEq] at dispatched
      obtain ⟨⟨returned, after⟩, issued, rfl, rfl⟩ := dispatched
      obtain ⟨grant, recorded, named, fresh, rfl⟩ := issueAuthToken_ok issued
      have lived := kept.life returned
      -- An older token of this identifier would be the owner's, under a nonce that is new now.
      have unowned : (world.storage.authTokens returned).owner = 0 := by
        by_contra owned
        obtain ⟨older, olderNamed, owner_eq, nonce_eq⟩ := lived.granted owned
        obtain ⟨owners, nonces⟩ := tokenId_inj injective (olderNamed.trans named.symm)
        have bounded := kept.counted returned owned
        rw [owner_eq, nonce_eq, owners, nonces] at bounded
        exact absurd fresh (BitVec.not_lt.mpr bounded)
      have growing : ∀ owner, world.storage.ownerNonce owner ≤
          update world.storage.ownerNonce grant.msg.sender grant.nonce owner := by
        intro owner
        by_cases here : owner = grant.msg.sender
        · subst here
          simpa using BitVec.le_of_lt fresh
        · simp [update_of_ne here]
      refine kept.advance (.issueAuthToken msg agent opType maxAmount validitySeconds returned) ?_
        (by simp [Grant.token]) growing
      have first : about returned transactions = [] := (lived.unowned unowned).1
      change Life deployment returned (about returned transactions ++ [_]) _
      rw [first, recorded]
      exact .issued grant named
  | revokeAuthToken msg tokenId =>
      obtain ⟨owned, unused, rfl⟩ := revokeAuthToken_ok (toOption_eq_some.mp dispatched)
      have owner_ne : (world.storage.authTokens tokenId).owner ≠ 0 := owned ▸ msg.sender_ne_zero
      refine kept.advance (.revokeAuthToken msg tokenId) ?_
        (kept.counted tokenId owner_ne) fun _ => BitVec.le_refl _
      obtain ⟨grant, named, alone, record⟩ := (kept.life tokenId).open_issued owner_ne unused
      change Life deployment tokenId (about tokenId transactions ++ [_]) _
      rw [alone, record]
      exact .revoked grant msg named
  | consumeAuth msg tokenId agent opType amount deadline v r s =>
      have consumed := toOption_eq_some.mp dispatched
      obtain ⟨owned, unused, honours, signed, updated⟩ :=
        consumeAuth_ok ⟨msg, agent, opType, amount, deadline, v, r, s⟩ consumed
      rw [updated]
      refine kept.advance (.consumeAuth msg tokenId agent opType amount deadline v r s) ?_
        (kept.counted tokenId owned) fun _ => BitVec.le_refl _
      obtain ⟨grant, named, alone, record⟩ := (kept.life tokenId).open_issued owned unused
      rw [record] at honours signed
      change Life deployment tokenId (about tokenId transactions ++ [_]) _
      rw [alone, record]
      exact .consumed grant _ named honours signed

theorem Kept.start : Kept deployment [] ({} : Storage Hash) :=
  ⟨fun _ => .unissued, fun _ owned => absurd rfl owned⟩

theorem run_kept (injective : Injective deployment.keccak256) {start : World Hash}
    (initial : (system deployment).Init start)
    (run : (system deployment).Run start transactions world) :
    Kept deployment transactions world.storage := by
  induction run with
  | nil =>
      have empty : start.storage = {} := initial
      rw [empty]
      exact .start
  | snoc _ step ih => exact ih.step injective step

omit [Inhabited Hash] in
theorem mem_about {tokenId : Hash} (member : transaction ∈ transactions)
    (here : transaction.tokenId = tokenId) : transaction ∈ about tokenId transactions :=
  List.mem_filter.mpr ⟨member, decide_eq_true here⟩

end Steps

/-! ## The whole run -/

/-- A consumption keeps to the terms of the one issue of its token, is signed by the issuer, and
is all that happened to the token since. -/
structure Authorized (deployment : Deployment Hash) (Signed : Address → Hash → Prop)
    (transactions : List (Transaction Hash)) (tokenId : Hash) (grant : Grant) (use : Use) :
    Prop where
  history : about tokenId transactions = [grant.issue tokenId, use.consume tokenId]
  honours : use.Honours (grant.token tokenId)
  signed : Signed grant.msg.sender ((use.authorization tokenId grant.nonce).digest deployment)
  exactly : ∀ other : Authorization Hash,
    other.digest deployment = (use.authorization tokenId grant.nonce).digest deployment →
      other = use.authorization tokenId grant.nonce

/-- The issue of a token is the first transaction on it and the only issue, and its record is
kept up to the mark of its use. -/
structure Unique (transactions : List (Transaction Hash)) (token : AuthToken Hash) (tokenId : Hash)
    (grant : Grant) (spending : List (Transaction Hash)) : Prop where
  history : about tokenId transactions = grant.issue tokenId :: spending
  spentOnce : spending.length ≤ 1
  issuedOnce : ∀ transaction ∈ spending, transaction.isIssue = false
  record : token = { grant.token tokenId with used := !spending.isEmpty }

/-- The token was issued on the terms asked for, is not expired, and nothing happened to it. -/
structure Grants (transactions : List (Transaction Hash)) (timestamp : Uint256) (tokenId : Hash)
    (agent : Address) (opType : OperationType) (amount : Uint256) (grant : Grant) : Prop where
  history : about tokenId transactions = [grant.issue tokenId]
  agent_eq : grant.agent = agent
  opType_eq : grant.opType = opType
  within : amount ≤ grant.maxAmount
  unexpired : timestamp ≤ grant.validUntil

theorem Life.unique {transactions : List (Transaction Hash)} {token : AuthToken Hash}
    (life : Life deployment tokenId (about tokenId transactions) token) {issue : Transaction Hash}
    (member : issue ∈ about tokenId transactions) (issues : issue.isIssue) :
    ∃ grant spending, issue = grant.issue tokenId ∧
      Unique transactions token tokenId grant spending := by
  generalize whole : about tokenId transactions = history at life member
  cases life with
  | unissued => exact absurd member List.not_mem_nil
  | issued grant =>
      refine ⟨grant, [], List.mem_singleton.mp member, whole, by simp, by simp, rfl⟩
  | revoked grant msg =>
      rcases List.mem_pair.mp member with rfl | rfl
      · exact ⟨grant, _, rfl, whole, le_rfl, by simp [Transaction.isIssue], rfl⟩
      · exact absurd issues (by simp [Transaction.isIssue])
  | consumed grant use =>
      rcases List.mem_pair.mp member with rfl | rfl
      · exact ⟨grant, _, rfl, whole, le_rfl, by simp [Transaction.isIssue, Use.consume], rfl⟩
      · exact absurd issues (by simp [Transaction.isIssue, Use.consume])

theorem Life.authorized (injective : Injective deployment.keccak256)
    {Signed : Address → Hash → Prop}
    (genuine : ∀ digest v r s, deployment.ecrecover digest v r s ≠ 0 →
      Signed (deployment.ecrecover digest v r s) digest) {transactions : List (Transaction Hash)}
    {token : AuthToken Hash} (life : Life deployment tokenId (about tokenId transactions) token)
    {use : Use} (member : use.consume tokenId ∈ about tokenId transactions) :
    ∃ grant, Authorized deployment Signed transactions tokenId grant use := by
  generalize whole : about tokenId transactions = history at life member
  cases life with
  | unissued => exact absurd member List.not_mem_nil
  | issued grant => simp [Use.consume, Grant.issue] at member
  | revoked grant msg => simp [Use.consume, Grant.issue] at member
  | consumed grant used named honours recovered =>
      obtain rfl : use = used := by
        cases use
        cases used
        simpa [Use.consume, Grant.issue] using member
      have signed := genuine _ use.v use.r use.s (recovered ▸ grant.msg.sender_ne_zero)
      rw [recovered] at signed
      exact ⟨grant, whole, honours, signed,
        fun _ same => Authorization.digest_injective injective same⟩

/-- Every consumption is authorized by the one issue of its token and is its only use, an issue
is never overwritten, and only an open token is valid. -/
theorem auth_tokens_single_use (injective : Injective deployment.keccak256)
    {Signed : Address → Hash → Prop}
    (genuine : ∀ digest v r s, deployment.ecrecover digest v r s ≠ 0 →
      Signed (deployment.ecrecover digest v r s) digest)
    {start world : World Hash} {transactions : List (Transaction Hash)}
    (initial : (system deployment).Init start)
    (run : (system deployment).Run start transactions world) :
    (∀ (use : Use) tokenId, use.consume tokenId ∈ transactions →
      ∃ grant, Authorized deployment Signed transactions tokenId grant use) ∧
    (∀ issue ∈ transactions, issue.isIssue → ∃ grant spending,
      issue = grant.issue issue.tokenId ∧
      Unique transactions (world.storage.authTokens issue.tokenId) issue.tokenId grant spending) ∧
    ∀ timestamp tokenId agent opType amount, 0 < timestamp →
      validateAuth world.storage timestamp tokenId agent opType amount = true →
      ∃ grant, Grants transactions timestamp tokenId agent opType amount grant := by
  have kept := run_kept injective initial run
  refine ⟨fun use tokenId member => ?_, fun issue member issues => ?_,
    fun timestamp tokenId agent opType amount positive valid => ?_⟩
  · exact (kept.life tokenId).authorized injective genuine (mem_about member rfl)
  · exact (kept.life issue.tokenId).unique (mem_about member rfl) issues
  · obtain ⟨agents, types, unused, unexpired, within⟩ := validateAuth_iff.mp valid
    have owned : (world.storage.authTokens tokenId).owner ≠ 0 := by
      intro unowned
      rw [((kept.life tokenId).unowned unowned).2] at unexpired
      exact BitVec.not_lt.mpr unexpired positive
    obtain ⟨grant, -, history, record⟩ := (kept.life tokenId).open_issued owned unused
    rw [record] at agents types unexpired within
    exact ⟨grant, history, agents, types, within, unexpired⟩

end Tokens

/-! ## A small run -/

namespace Demo

/-- The contract where nobody has signed anything. -/
def unsigned : Deployment (List Nat) where
  keccak256 := Symbol.numbers
  ecrecover _ _ _ _ := 0
  chainid := 1
  self := 9

theorem owner_ne_zero : (1 : Address) ≠ 0 := by decide
theorem agent_ne_zero : (2 : Address) ≠ 0 := by decide
theorem ten_pos : (0 : Uint256) < 10 := by decide
theorem twenty_pos : (0 : Uint256) < 20 := by decide

def tokenId : List Nat := unsigned.tokenId 1 2 .confirmBill 100 1 60 1

/-- The agent spends 30 of 100, until time 50. -/
def use : Use := ⟨⟨2, 20, 1, agent_ne_zero, twenty_pos⟩, 2, .confirmBill, 30, 50, 27, 5, 6⟩

def digest : List Nat := (use.authorization tokenId 1).digest unsigned

/-- The owner has signed this use. -/
def deployment : Deployment (List Nat) :=
  { unsigned with ecrecover := fun signed _ _ _ => if signed = digest then 1 else 0 }

def Signed (account : Address) (signed : List Nat) : Prop := account = 1 ∧ signed = digest

theorem genuine (signed : List Nat) (v : BitVec 8) (r s : Uint256)
    (recovers : deployment.ecrecover signed v r s ≠ 0) :
    Signed (deployment.ecrecover signed v r s) signed := by
  simp only [deployment] at recovers ⊢
  split_ifs at recovers ⊢ with same
  · exact ⟨rfl, same⟩
  · exact absurd rfl recovers

def consumed : Scene (perform deployment) {} where
  actions := [.issueAuthToken ⟨1, 10, 1, owner_ne_zero, ten_pos⟩ 2 .confirmBill 100 50 tokenId,
    use.consume tokenId]
  possible := by decide +kernel

theorem initial : (system deployment).Init {} := rfl

end Demo

theorem auth_tokens_single_use_demo : ∃ grant, Authorized Demo.deployment Demo.Signed
    Demo.consumed.actions Demo.tokenId grant Demo.use :=
  (auth_tokens_single_use Symbol.numbers_injective Demo.genuine Demo.initial
    (Demo.consumed.run fun _ _ _ performed => performed)).1 Demo.use Demo.tokenId
    (List.mem_cons_of_mem _ List.mem_cons_self)

end TrustChain.AuthTokens
