import TrustChain.Bilateral.Types

/-!
# The escrow ledger

What the contract is for, without time, callers or tokens: bills that are free, bound
in a pact of two, or burned, next to running totals that are meant to be the sums over
those bills. `Consistent` says that they are. The moves of the ledger are the only
ways it ever changes, and each of them keeps it consistent.
-/

namespace TrustChain.Bilateral

open Library Function

/-- A bill as the ledger sees it. -/
structure Bill (Account Token : Type) where
  owner : Account
  token : Token
  amount : Nat
  state : BillState

/-- Two bills bound to each other; `live` until they are paid out. -/
structure Pact where
  buyer : Nat
  agent : Nat
  live : Bool

/-- Bills and pacts under counted identifiers, and the running totals. -/
structure Ledger (Account Token : Type) where
  billCount : Nat
  bill : Nat → Bill Account Token
  pactCount : Nat
  pact : Nat → Pact
  supply : Token → Nat
  locked : Token → Nat
  pending : Token → Nat
  free : Account → Nat
  bound : Account → Nat
  minted : Account → Nat
  lockedBy : Account → Nat

variable {Account Token : Type} [DecidableEq Account] [DecidableEq Token]

/-- Amount of a bill of `token` that is not burned. -/
def Bill.circulating (token : Token) (bill : Bill Account Token) : Nat :=
  if token = bill.token ∧ bill.state ≠ .burned then bill.amount else 0

/-- Amount of a bill of `account` in the given state. -/
def Bill.held (account : Account) (state : BillState) (bill : Bill Account Token) : Nat :=
  if account = bill.owner ∧ bill.state = state then bill.amount else 0

def Pact.Uses (pact : Pact) (billId : Nat) : Prop := pact.buyer = billId ∨ pact.agent = billId

namespace Ledger

variable (ledger : Ledger Account Token)

/-- Amount that a live pact of `token` keeps pending. -/
def pactAmount (token : Token) (pact : Pact) : Nat :=
  if pact.live = true ∧ token = (ledger.bill pact.buyer).token then
    (ledger.bill pact.buyer).amount + (ledger.bill pact.agent).amount
  else 0

/-- The identifiers handed out so far. -/
def IsBill (billId : Nat) : Prop := 1 ≤ billId ∧ billId ≤ ledger.billCount

def IsPact (pactId : Nat) : Prop := 1 ≤ pactId ∧ pactId ≤ ledger.pactCount

/-! ## Moves -/

/-- A new free bill. -/
def mint (owner : Account) (token : Token) (amount : Nat) : Ledger Account Token :=
  { ledger with
    billCount := ledger.billCount + 1
    bill := update ledger.bill (ledger.billCount + 1) ⟨owner, token, amount, .minted⟩
    supply := credit ledger.supply token amount
    locked := credit ledger.locked token amount
    free := credit ledger.free owner amount
    minted := credit ledger.minted owner amount
    lockedBy := credit ledger.lockedBy owner amount }

/-- A new pact of two free bills. -/
def bind (buyerId agentId : Nat) : Ledger Account Token :=
  let buyer := ledger.bill buyerId
  let agent := ledger.bill agentId
  { ledger with
    bill := update (update ledger.bill buyerId { buyer with state := .bound })
      agentId { agent with state := .bound }
    pactCount := ledger.pactCount + 1
    pact := update ledger.pact (ledger.pactCount + 1) ⟨buyerId, agentId, true⟩
    pending := credit ledger.pending buyer.token (buyer.amount + agent.amount)
    free := debit (debit ledger.free buyer.owner buyer.amount) agent.owner agent.amount
    bound := credit (credit ledger.bound buyer.owner buyer.amount) agent.owner agent.amount }

/-- Pay a live pact out: both its bills are burned. -/
def close (pactId : Nat) : Ledger Account Token :=
  let pact := ledger.pact pactId
  let buyer := ledger.bill pact.buyer
  let agent := ledger.bill pact.agent
  { ledger with
    bill := update (update ledger.bill pact.buyer { buyer with state := .burned })
      pact.agent { agent with state := .burned }
    pact := update ledger.pact pactId { pact with live := false }
    supply := debit (debit ledger.supply buyer.token buyer.amount) agent.token agent.amount
    locked := debit (debit ledger.locked buyer.token buyer.amount) agent.token agent.amount
    pending := debit ledger.pending buyer.token (buyer.amount + agent.amount)
    bound := debit (debit ledger.bound buyer.owner buyer.amount) agent.owner agent.amount
    minted := debit (debit ledger.minted buyer.owner buyer.amount) agent.owner agent.amount
    lockedBy := debit (debit ledger.lockedBy buyer.owner buyer.amount) agent.owner agent.amount }

/-- Pay a free bill back. -/
def withdraw (billId : Nat) : Ledger Account Token :=
  let bill := ledger.bill billId
  { ledger with
    bill := update ledger.bill billId { bill with state := .burned }
    supply := debit ledger.supply bill.token bill.amount
    locked := debit ledger.locked bill.token bill.amount
    free := debit ledger.free bill.owner bill.amount
    minted := debit ledger.minted bill.owner bill.amount
    lockedBy := debit ledger.lockedBy bill.owner bill.amount }

/-- Two free bills of one token and different owners. -/
structure Bindable (buyerId agentId : Nat) : Prop where
  buyer_isBill : ledger.IsBill buyerId
  agent_isBill : ledger.IsBill agentId
  buyer_minted : (ledger.bill buyerId).state = .minted
  agent_minted : (ledger.bill agentId).state = .minted
  same_token : (ledger.bill buyerId).token = (ledger.bill agentId).token
  owners_ne : (ledger.bill buyerId).owner ≠ (ledger.bill agentId).owner

/-- The moves and when they are enabled. -/
inductive Move : Ledger Account Token → Ledger Account Token → Prop
  | idle (ledger : Ledger Account Token) : Move ledger ledger
  | mint (ledger : Ledger Account Token) (owner : Account) (token : Token) (amount : Nat) :
      Move ledger (ledger.mint owner token amount)
  | bind (ledger : Ledger Account Token) (buyerId agentId : Nat) : ledger.Bindable buyerId agentId →
      Move ledger (ledger.bind buyerId agentId)
  | close (ledger : Ledger Account Token) (pactId : Nat) : ledger.IsPact pactId →
      (ledger.pact pactId).live = true → Move ledger (ledger.close pactId)
  | withdraw (ledger : Ledger Account Token) (billId : Nat) : ledger.IsBill billId →
      (ledger.bill billId).state = .minted → Move ledger (ledger.withdraw billId)

/-! ## Consistency -/

/-- Every running total over bills is the sum it stands for. -/
structure Balanced : Prop where
  supply_eq : ∀ token, ledger.supply token =
    tally ledger.billCount ledger.bill (Bill.circulating token)
  locked_eq : ∀ token, ledger.locked token =
    tally ledger.billCount ledger.bill (Bill.circulating token)
  free_eq : ∀ account, ledger.free account =
    tally ledger.billCount ledger.bill (Bill.held account .minted)
  bound_eq : ∀ account, ledger.bound account =
    tally ledger.billCount ledger.bill (Bill.held account .bound)
  minted_eq : ∀ account, ledger.minted account = ledger.free account + ledger.bound account
  lockedBy_eq : ∀ account, ledger.lockedBy account = ledger.free account + ledger.bound account

/-- What a pact says about its two bills. -/
structure Sound (pact : Pact) : Prop where
  buyer_isBill : ledger.IsBill pact.buyer
  agent_isBill : ledger.IsBill pact.agent
  same_token : (ledger.bill pact.buyer).token = (ledger.bill pact.agent).token
  owners_ne : (ledger.bill pact.buyer).owner ≠ (ledger.bill pact.agent).owner
  buyer_state : (ledger.bill pact.buyer).state = if pact.live then .bound else .burned
  agent_state : (ledger.bill pact.agent).state = if pact.live then .bound else .burned

/-- Pacts are sound and share no bill, and bound bills and pending amounts are accounted
for by live pacts. -/
structure Paired : Prop where
  sound : ∀ pactId, ledger.IsPact pactId → ledger.Sound (ledger.pact pactId)
  exclusive : ∀ pactId otherId billId, ledger.IsPact pactId → ledger.IsPact otherId →
    (ledger.pact pactId).Uses billId → (ledger.pact otherId).Uses billId → pactId = otherId
  bound_used : ∀ billId, ledger.IsBill billId → (ledger.bill billId).state = .bound →
    ∃ pactId, ledger.IsPact pactId ∧ (ledger.pact pactId).live = true ∧
      (ledger.pact pactId).Uses billId
  pending_eq : ∀ token, ledger.pending token =
    tally ledger.pactCount ledger.pact (ledger.pactAmount token)

structure Consistent : Prop where
  balanced : ledger.Balanced
  paired : ledger.Paired

variable {ledger} {next : Ledger Account Token}

omit [DecidableEq Account] [DecidableEq Token] in
theorem Sound.buyer_ne_agent {pact : Pact} (sound : ledger.Sound pact) :
    pact.buyer ≠ pact.agent := by
  intro equal
  exact sound.owners_ne (by rw [equal])

omit [DecidableEq Account] [DecidableEq Token] in
theorem Bindable.buyer_ne_agent {buyerId agentId : Nat}
    (bindable : ledger.Bindable buyerId agentId) : buyerId ≠ agentId := by
  intro equal
  exact bindable.owners_ne (by rw [equal])

omit [DecidableEq Account] [DecidableEq Token] in
/-- A bill that some pact uses is no longer free. -/
theorem Sound.not_minted {pact : Pact} {billId : Nat} (sound : ledger.Sound pact)
    (uses : pact.Uses billId) : (ledger.bill billId).state ≠ .minted := by
  rcases uses with rfl | rfl
  · rw [sound.buyer_state]; split <;> simp
  · rw [sound.agent_state]; split <;> simp

/-! ## Preservation of the sums -/

theorem Balanced.mint (balanced : ledger.Balanced) (owner : Account) (token : Token)
    (amount : Nat) : (ledger.mint owner token amount).Balanced := by
  have push := fun weight => tally_push ledger.billCount ledger.bill
    (⟨owner, token, amount, .minted⟩ : Bill Account Token) weight
  constructor
  case supply_eq | locked_eq =>
    intro query
    simp [Ledger.mint, push, credit_apply, Bill.circulating, balanced.supply_eq query,
      balanced.locked_eq query]
  case free_eq =>
    intro account
    simp [Ledger.mint, push, credit_apply, Bill.held, balanced.free_eq account]
  case bound_eq =>
    intro account
    simp [Ledger.mint, push, Bill.held, balanced.bound_eq account]
  case minted_eq | lockedBy_eq =>
    intro account
    have minted := balanced.minted_eq account
    have lockedBy := balanced.lockedBy_eq account
    simp only [Ledger.mint, credit_apply]
    omega

theorem Balanced.bind {buyerId agentId : Nat} (balanced : ledger.Balanced)
    (bindable : ledger.Bindable buyerId agentId) : (ledger.bind buyerId agentId).Balanced := by
  have different := bindable.buyer_ne_agent
  obtain ⟨⟨buyerLower, buyerUpper⟩, ⟨agentLower, agentUpper⟩, buyerMinted, agentMinted, -, -⟩ :=
    bindable
  have exchange := tally_update_two buyerLower buyerUpper agentLower agentUpper different
    ledger.bill { ledger.bill buyerId with state := .bound }
    { ledger.bill agentId with state := .bound }
  have pair := add_le_tally buyerLower buyerUpper agentLower agentUpper different ledger.bill
  constructor
  case supply_eq | locked_eq =>
    intro token
    have moved := exchange (Bill.circulating token)
    have supply := balanced.supply_eq token
    have locked := balanced.locked_eq token
    simp [Bill.circulating, buyerMinted, agentMinted] at moved
    simp only [Ledger.bind]
    omega
  case free_eq | bound_eq =>
    intro account
    have minted := exchange (Bill.held account .minted)
    have moved := exchange (Bill.held account .bound)
    have free := balanced.free_eq account
    have bound := balanced.bound_eq account
    simp [Bill.held, buyerMinted, agentMinted] at minted moved
    simp only [Ledger.bind, debit_apply, credit_apply]
    omega
  case minted_eq | lockedBy_eq =>
    intro account
    have minted := balanced.minted_eq account
    have lockedBy := balanced.lockedBy_eq account
    have free := balanced.free_eq account
    have enough := pair (Bill.held account .minted)
    simp only [Bill.held, buyerMinted, agentMinted, and_true] at enough
    simp only [Ledger.bind, credit_apply, debit_apply]
    omega

theorem Balanced.close {pactId : Nat} (balanced : ledger.Balanced)
    (sound : ledger.Sound (ledger.pact pactId)) (live : (ledger.pact pactId).live = true) :
    (ledger.close pactId).Balanced := by
  have different := sound.buyer_ne_agent
  obtain ⟨⟨buyerLower, buyerUpper⟩, ⟨agentLower, agentUpper⟩, -, -, buyerBound, agentBound⟩ := sound
  simp only [live, if_true] at buyerBound agentBound
  have exchange := tally_update_two buyerLower buyerUpper agentLower agentUpper different
    ledger.bill { ledger.bill (ledger.pact pactId).buyer with state := .burned }
    { ledger.bill (ledger.pact pactId).agent with state := .burned }
  constructor
  case supply_eq | locked_eq =>
    intro token
    have moved := exchange (Bill.circulating token)
    have supply := balanced.supply_eq token
    have locked := balanced.locked_eq token
    simp [Bill.circulating, buyerBound, agentBound] at moved
    simp only [Ledger.close, debit_apply]
    omega
  case free_eq | bound_eq | minted_eq | lockedBy_eq =>
    intro account
    have kept := exchange (Bill.held account .minted)
    have moved := exchange (Bill.held account .bound)
    have free := balanced.free_eq account
    have bound := balanced.bound_eq account
    have minted := balanced.minted_eq account
    have lockedBy := balanced.lockedBy_eq account
    simp [Bill.held, buyerBound, agentBound] at kept moved
    simp only [Ledger.close, debit_apply]
    omega

theorem Balanced.withdraw {billId : Nat} (balanced : ledger.Balanced)
    (isBill : ledger.IsBill billId) (minted : (ledger.bill billId).state = .minted) :
    (ledger.withdraw billId).Balanced := by
  have exchange := tally_update isBill.1 isBill.2 ledger.bill
    { ledger.bill billId with state := .burned }
  constructor
  case supply_eq | locked_eq =>
    intro token
    have moved := exchange (Bill.circulating token)
    have supply := balanced.supply_eq token
    have locked := balanced.locked_eq token
    simp [Bill.circulating, minted] at moved
    simp only [Ledger.withdraw, debit_apply]
    omega
  case free_eq | bound_eq | minted_eq | lockedBy_eq =>
    intro account
    have moved := exchange (Bill.held account .minted)
    have kept := exchange (Bill.held account .bound)
    have free := balanced.free_eq account
    have bound := balanced.bound_eq account
    have mintedBy := balanced.minted_eq account
    have lockedBy := balanced.lockedBy_eq account
    simp [Bill.held, minted] at moved kept
    simp only [Ledger.withdraw, debit_apply]
    omega

/-! ## Preservation of the pacts -/

omit [DecidableEq Account] [DecidableEq Token] in
/-- A pact stays sound as long as its two bills are not touched. -/
theorem Sound.frame {pact : Pact} (sound : ledger.Sound pact)
    (more : ledger.billCount ≤ next.billCount)
    (same : ∀ billId, pact.Uses billId → next.bill billId = ledger.bill billId) :
    next.Sound pact := by
  have buyer := same pact.buyer (.inl rfl)
  have agent := same pact.agent (.inr rfl)
  constructor
  · exact ⟨sound.buyer_isBill.1, sound.buyer_isBill.2.trans more⟩
  · exact ⟨sound.agent_isBill.1, sound.agent_isBill.2.trans more⟩
  · rw [buyer, agent]; exact sound.same_token
  · rw [buyer, agent]; exact sound.owners_ne
  · rw [buyer]; exact sound.buyer_state
  · rw [agent]; exact sound.agent_state

omit [DecidableEq Account] [DecidableEq Token] in
theorem Sound.isBill {pact : Pact} {billId : Nat} (sound : ledger.Sound pact)
    (uses : pact.Uses billId) : ledger.IsBill billId := by
  rcases uses with rfl | rfl
  · exact sound.buyer_isBill
  · exact sound.agent_isBill

omit [DecidableEq Account] in
/-- The pending amount of a pact depends on the tokens and amounts of its bills alone. -/
theorem pactAmount_congr {pact : Pact} (token : Token)
    (same : ∀ billId, pact.Uses billId → (next.bill billId).token = (ledger.bill billId).token ∧
      (next.bill billId).amount = (ledger.bill billId).amount) :
    next.pactAmount token pact = ledger.pactAmount token pact := by
  obtain ⟨buyerToken, buyerAmount⟩ := same pact.buyer (.inl rfl)
  obtain ⟨-, agentAmount⟩ := same pact.agent (.inr rfl)
  simp only [pactAmount, buyerToken, buyerAmount, agentAmount]

theorem Paired.mint (paired : ledger.Paired) (owner : Account) (token : Token) (amount : Nat) :
    (ledger.mint owner token amount).Paired := by
  have untouched : ∀ billId, ledger.IsBill billId →
      (ledger.mint owner token amount).bill billId = ledger.bill billId := by
    intro billId isBill
    have old : billId ≠ ledger.billCount + 1 := by have := isBill.2; omega
    exact update_of_ne old _ _
  constructor
  case sound =>
    intro pactId isPact
    have sound := paired.sound pactId isPact
    exact sound.frame (Nat.le_succ _) fun billId uses => untouched billId (sound.isBill uses)
  case exclusive => exact paired.exclusive
  case bound_used =>
    intro billId isBill isBound
    by_cases fresh : billId = ledger.billCount + 1
    · subst fresh
      simp [Ledger.mint] at isBound
    · have old : ledger.IsBill billId := by
        have upper : billId ≤ ledger.billCount + 1 := isBill.2
        exact ⟨isBill.1, by omega⟩
      rw [untouched billId old] at isBound
      exact paired.bound_used billId old isBound
  case pending_eq =>
    intro query
    refine (paired.pending_eq query).trans (tally_congr fun pactId lower upper => ?_)
    symm
    apply pactAmount_congr
    intro billId uses
    rw [untouched billId ((paired.sound pactId ⟨lower, upper⟩).isBill uses)]
    exact ⟨rfl, rfl⟩

omit [DecidableEq Account] [DecidableEq Token] in
/-- Writing new states into two bills keeps their other fields. -/
theorem update_two_states (bill : Nat → Bill Account Token) (first second query : Nat)
    (state : BillState) :
    let next := update (update bill first { bill first with state := state })
      second { bill second with state := state }
    (next query).owner = (bill query).owner ∧ (next query).token = (bill query).token ∧
      (next query).amount = (bill query).amount ∧
      (next query).state = if query = first ∨ query = second then state else (bill query).state := by
  by_cases isSecond : query = second
  · subst isSecond; simp
  · by_cases isFirst : query = first
    · subst isFirst; simp [isSecond]
    · simp [isFirst, isSecond]

theorem Paired.bind {buyerId agentId : Nat} (paired : ledger.Paired)
    (bindable : ledger.Bindable buyerId agentId) : (ledger.bind buyerId agentId).Paired := by
  have fields := update_two_states ledger.bill buyerId agentId
  have untouched : ∀ pactId billId, ledger.IsPact pactId → (ledger.pact pactId).Uses billId →
      billId ≠ buyerId ∧ billId ≠ agentId := by
    intro pactId billId isPact uses
    have used := (paired.sound pactId isPact).not_minted uses
    constructor
    · rintro rfl; exact used bindable.buyer_minted
    · rintro rfl; exact used bindable.agent_minted
  have unused : ∀ pactId billId, ledger.IsPact pactId → (ledger.pact pactId).Uses billId →
      ¬Pact.Uses ⟨buyerId, agentId, true⟩ billId := by
    rintro pactId billId isPact uses (equal | equal)
    · exact (untouched pactId billId isPact uses).1 equal.symm
    · exact (untouched pactId billId isPact uses).2 equal.symm
  have oldPact : ∀ pactId, ledger.IsPact pactId →
      (ledger.bind buyerId agentId).pact pactId = ledger.pact pactId := by
    intro pactId isPact
    have old : pactId ≠ ledger.pactCount + 1 := by have := isPact.2; omega
    exact update_of_ne old _ _
  have newPact : (ledger.bind buyerId agentId).pact (ledger.pactCount + 1) =
      ⟨buyerId, agentId, true⟩ := update_self _ _ _
  have cases : ∀ pactId, (ledger.bind buyerId agentId).IsPact pactId →
      pactId = ledger.pactCount + 1 ∨ ledger.IsPact pactId := by
    intro pactId isPact
    have upper : pactId ≤ ledger.pactCount + 1 := isPact.2
    rcases Nat.lt_or_ge ledger.pactCount pactId with above | below
    · exact .inl (by omega)
    · exact .inr ⟨isPact.1, below⟩
  constructor
  case sound =>
    intro pactId isPact
    rcases cases pactId isPact with rfl | old
    · rw [newPact]
      obtain ⟨buyerOwner, buyerToken, -, buyerState⟩ := fields buyerId .bound
      obtain ⟨agentOwner, agentToken, -, agentState⟩ := fields agentId .bound
      constructor
      · exact bindable.buyer_isBill
      · exact bindable.agent_isBill
      · exact (buyerToken.trans bindable.same_token).trans agentToken.symm
      · intro equal
        exact bindable.owners_ne ((buyerOwner.symm.trans equal).trans agentOwner)
      · exact buyerState.trans (by simp)
      · exact agentState.trans (by simp)
    · rw [oldPact pactId old]
      refine (paired.sound pactId old).frame le_rfl fun billId uses => ?_
      obtain ⟨notBuyer, notAgent⟩ := untouched pactId billId old uses
      exact (update_of_ne notAgent _ _).trans (update_of_ne notBuyer _ _)
  case exclusive =>
    intro pactId otherId billId isPact isOther uses otherUses
    rcases cases pactId isPact with rfl | old <;> rcases cases otherId isOther with rfl | otherOld
    · rfl
    · rw [newPact] at uses
      rw [oldPact otherId otherOld] at otherUses
      exact absurd uses (unused otherId billId otherOld otherUses)
    · rw [newPact] at otherUses
      rw [oldPact pactId old] at uses
      exact absurd otherUses (unused pactId billId old uses)
    · rw [oldPact pactId old] at uses
      rw [oldPact otherId otherOld] at otherUses
      exact paired.exclusive pactId otherId billId old otherOld uses otherUses
  case bound_used =>
    intro billId isBill isBound
    by_cases chosen : billId = buyerId ∨ billId = agentId
    · refine ⟨ledger.pactCount + 1, ⟨by omega, le_rfl⟩, ?_, ?_⟩
      · rw [newPact]
      · rw [newPact]
        exact chosen.imp Eq.symm Eq.symm
    · have before : (ledger.bill billId).state = .bound := by
        have state := (fields billId .bound).2.2.2
        rw [if_neg chosen] at state
        exact state.symm.trans isBound
      obtain ⟨pactId, isPact, live, uses⟩ := paired.bound_used billId isBill before
      refine ⟨pactId, ⟨isPact.1, isPact.2.trans (Nat.le_succ _)⟩, ?_, ?_⟩
      · rw [oldPact pactId isPact]; exact live
      · rw [oldPact pactId isPact]; exact uses
  case pending_eq =>
    intro token
    have sameAmount : ∀ pact, (ledger.bind buyerId agentId).pactAmount token pact =
        ledger.pactAmount token pact := fun pact =>
      pactAmount_congr token fun billId _ => ⟨(fields billId .bound).2.1, (fields billId .bound).2.2.1⟩
    have pushed := tally_push ledger.pactCount ledger.pact ⟨buyerId, agentId, true⟩
      (ledger.pactAmount token)
    have total := paired.pending_eq token
    calc (ledger.bind buyerId agentId).pending token
        = ledger.pending token + ledger.pactAmount token ⟨buyerId, agentId, true⟩ := by
          simp [Ledger.bind, credit_apply, pactAmount]
      _ = tally (ledger.pactCount + 1) (ledger.bind buyerId agentId).pact
            (ledger.pactAmount token) := by rw [total]; exact pushed.symm
      _ = _ := tally_congr fun pactId _ _ => (sameAmount _).symm

theorem Paired.close {pactId : Nat} (paired : ledger.Paired) (isPact : ledger.IsPact pactId)
    (live : (ledger.pact pactId).live = true) : (ledger.close pactId).Paired := by
  have fields := update_two_states ledger.bill (ledger.pact pactId).buyer (ledger.pact pactId).agent
  have otherPact : ∀ otherId, otherId ≠ pactId →
      (ledger.close pactId).pact otherId = ledger.pact otherId :=
    fun otherId different => update_of_ne different _ _
  have thisPact : (ledger.close pactId).pact pactId = { ledger.pact pactId with live := false } :=
    update_self _ _ _
  have sameUses : ∀ otherId billId, ((ledger.close pactId).pact otherId).Uses billId ↔
      (ledger.pact otherId).Uses billId := by
    intro otherId billId
    by_cases same : otherId = pactId
    · subst same; rw [thisPact]; rfl
    · rw [otherPact otherId same]
  constructor
  case sound =>
    intro otherId isOther
    have sound := paired.sound otherId isOther
    by_cases same : otherId = pactId
    · subst same
      rw [thisPact]
      obtain ⟨buyerOwner, buyerToken, -, buyerState⟩ := fields (ledger.pact otherId).buyer .burned
      obtain ⟨agentOwner, agentToken, -, agentState⟩ := fields (ledger.pact otherId).agent .burned
      constructor
      · exact sound.buyer_isBill
      · exact sound.agent_isBill
      · exact (buyerToken.trans sound.same_token).trans agentToken.symm
      · intro equal
        exact sound.owners_ne ((buyerOwner.symm.trans equal).trans agentOwner)
      · exact buyerState.trans (by simp)
      · exact agentState.trans (by simp)
    · rw [otherPact otherId same]
      refine sound.frame le_rfl fun billId uses => ?_
      have unshared : ∀ closed, (ledger.pact pactId).Uses closed → billId ≠ closed := by
        rintro closed closedUses rfl
        exact same (paired.exclusive otherId pactId billId isOther isPact uses closedUses)
      exact (update_of_ne (unshared _ (.inr rfl)) _ _).trans (update_of_ne (unshared _ (.inl rfl)) _ _)
  case exclusive =>
    intro firstId secondId billId isFirst isSecond firstUses secondUses
    rw [sameUses] at firstUses secondUses
    exact paired.exclusive firstId secondId billId isFirst isSecond firstUses secondUses
  case bound_used =>
    intro billId isBill isBound
    have state := (fields billId .burned).2.2.2
    by_cases closed : billId = (ledger.pact pactId).buyer ∨ billId = (ledger.pact pactId).agent
    · rw [if_pos closed] at state
      exact absurd (state.symm.trans isBound) (by decide)
    · rw [if_neg closed] at state
      obtain ⟨otherId, isOther, otherLive, uses⟩ :=
        paired.bound_used billId isBill (state.symm.trans isBound)
      have different : otherId ≠ pactId := by
        rintro rfl
        exact closed (uses.imp Eq.symm Eq.symm)
      exact ⟨otherId, isOther, by rw [otherPact otherId different]; exact otherLive,
        (sameUses otherId billId).mpr uses⟩
  case pending_eq =>
    intro token
    have sameAmount : ∀ pact, (ledger.close pactId).pactAmount token pact =
        ledger.pactAmount token pact := fun pact =>
      pactAmount_congr token fun billId _ => ⟨(fields billId .burned).2.1, (fields billId .burned).2.2.1⟩
    have exchanged := tally_update isPact.1 isPact.2 ledger.pact
      { ledger.pact pactId with live := false } (ledger.pactAmount token)
    have total := paired.pending_eq token
    have closedAmount : ledger.pactAmount token { ledger.pact pactId with live := false } = 0 := by
      simp [pactAmount]
    calc (ledger.close pactId).pending token
        = ledger.pending token - ledger.pactAmount token (ledger.pact pactId) := by
          simp [Ledger.close, debit_apply, pactAmount, live]
      _ = tally ledger.pactCount (ledger.close pactId).pact (ledger.pactAmount token) := by
          rw [closedAmount] at exchanged
          change _ = tally ledger.pactCount
            (update ledger.pact pactId { ledger.pact pactId with live := false }) _
          omega
      _ = _ := tally_congr fun otherId _ _ => (sameAmount _).symm

theorem Paired.withdraw {billId : Nat} (paired : ledger.Paired)
    (minted : (ledger.bill billId).state = .minted) : (ledger.withdraw billId).Paired := by
  have untouched : ∀ usedId, usedId ≠ billId →
      (ledger.withdraw billId).bill usedId = ledger.bill usedId :=
    fun usedId different => update_of_ne different _ _
  have unused : ∀ pactId usedId, ledger.IsPact pactId → (ledger.pact pactId).Uses usedId →
      usedId ≠ billId := by
    rintro pactId usedId isPact uses rfl
    exact (paired.sound pactId isPact).not_minted uses minted
  constructor
  case sound =>
    intro pactId isPact
    exact (paired.sound pactId isPact).frame le_rfl fun usedId uses =>
      untouched usedId (unused pactId usedId isPact uses)
  case exclusive => exact paired.exclusive
  case bound_used =>
    intro usedId isBill isBound
    by_cases same : usedId = billId
    · subst same
      simp [Ledger.withdraw] at isBound
    · rw [untouched usedId same] at isBound
      exact paired.bound_used usedId isBill isBound
  case pending_eq =>
    intro token
    refine (paired.pending_eq token).trans (tally_congr fun pactId lower upper => ?_)
    symm
    apply pactAmount_congr
    intro usedId uses
    rw [untouched usedId (unused pactId usedId ⟨lower, upper⟩ uses)]
    exact ⟨rfl, rfl⟩

/-- Every move keeps the ledger consistent. -/
theorem Consistent.move (consistent : ledger.Consistent) (move : ledger.Move next) :
    next.Consistent := by
  obtain ⟨balanced, paired⟩ := consistent
  cases move with
  | idle => exact ⟨balanced, paired⟩
  | mint owner token amount =>
      exact ⟨balanced.mint owner token amount, paired.mint owner token amount⟩
  | bind buyerId agentId bindable => exact ⟨balanced.bind bindable, paired.bind bindable⟩
  | close pactId isPact live =>
      exact ⟨balanced.close (paired.sound pactId isPact) live, paired.close isPact live⟩
  | withdraw billId isBill minted =>
      exact ⟨balanced.withdraw isBill minted, paired.withdraw minted⟩

/-- A ledger in which nothing has happened yet is consistent. -/
theorem Consistent.fresh (noBills : ledger.billCount = 0) (noPacts : ledger.pactCount = 0)
    (supply : ledger.supply = fun _ => 0) (locked : ledger.locked = fun _ => 0)
    (pending : ledger.pending = fun _ => 0) (free : ledger.free = fun _ => 0)
    (bound : ledger.bound = fun _ => 0) (minted : ledger.minted = fun _ => 0)
    (lockedBy : ledger.lockedBy = fun _ => 0) : ledger.Consistent := by
  have noBill : ∀ billId, ¬ledger.IsBill billId := by
    rintro billId ⟨lower, upper⟩; omega
  have noPact : ∀ pactId, ¬ledger.IsPact pactId := by
    rintro pactId ⟨lower, upper⟩; omega
  constructor
  · constructor <;> simp [supply, locked, free, bound, minted, lockedBy, noBills]
  · constructor
    · exact fun pactId isPact => absurd isPact (noPact pactId)
    · exact fun pactId _ _ isPact => absurd isPact (noPact pactId)
    · exact fun billId isBill => absurd isBill (noBill billId)
    · simp [pending, noPacts]

/-! ## What never changes -/

/-- A bill keeps its owner, token and amount, and a burned bill stays burned. -/
structure BillKept (before after : Bill Account Token) : Prop where
  owner_eq : after.owner = before.owner
  token_eq : after.token = before.token
  amount_eq : after.amount = before.amount
  burned : before.state = .burned → after.state = .burned

omit [DecidableEq Account] [DecidableEq Token] in
theorem BillKept.refl (bill : Bill Account Token) : BillKept bill bill := ⟨rfl, rfl, rfl, id⟩

omit [DecidableEq Account] [DecidableEq Token] in
theorem billKept_update_two (bill : Nat → Bill Account Token) (first second query : Nat)
    (state : BillState) (unburned : ∀ id, id = first ∨ id = second →
      (bill id).state = .burned → state = .burned) :
    BillKept (bill query) (update (update bill first { bill first with state := state })
      second { bill second with state := state } query) := by
  obtain ⟨owner, token, amount, stateEq⟩ := update_two_states bill first second query state
  refine ⟨owner, token, amount, fun burned => ?_⟩
  rw [stateEq]
  split
  · next chosen => exact unburned query chosen burned
  · exact burned

theorem Move.bill_kept (move : ledger.Move next) {billId : Nat} (isBill : ledger.IsBill billId) :
    next.IsBill billId ∧ BillKept (ledger.bill billId) (next.bill billId) := by
  cases move with
  | idle => exact ⟨isBill, .refl _⟩
  | mint owner token amount =>
      have old : billId ≠ ledger.billCount + 1 := by have := isBill.2; omega
      refine ⟨⟨isBill.1, isBill.2.trans (Nat.le_succ _)⟩, ?_⟩
      simp only [Ledger.mint, update_of_ne old]
      exact .refl _
  | bind buyerId agentId bindable =>
      refine ⟨isBill, billKept_update_two ledger.bill buyerId agentId billId .bound ?_⟩
      rintro id (rfl | rfl) burned
      · rw [bindable.buyer_minted] at burned; cases burned
      · rw [bindable.agent_minted] at burned; cases burned
  | close pactId isPact live =>
      exact ⟨isBill, billKept_update_two ledger.bill _ _ billId .burned fun _ _ _ => rfl⟩
  | withdraw withdrawnId isWithdrawn minted =>
      refine ⟨isBill, ?_⟩
      by_cases same : billId = withdrawnId
      · subst same
        simp only [Ledger.withdraw, update_self]
        exact ⟨rfl, rfl, rfl, fun _ => rfl⟩
      · simp only [Ledger.withdraw, update_of_ne same]
        exact .refl _

/-- A pact keeps its two bills, and once closed it stays closed. -/
theorem Move.pact_kept (move : ledger.Move next) {pactId : Nat} (isPact : ledger.IsPact pactId) :
    next.IsPact pactId ∧ (next.pact pactId).buyer = (ledger.pact pactId).buyer ∧
      (next.pact pactId).agent = (ledger.pact pactId).agent ∧
      ((ledger.pact pactId).live = false → (next.pact pactId).live = false) := by
  cases move with
  | idle => exact ⟨isPact, rfl, rfl, id⟩
  | mint owner token amount => exact ⟨isPact, rfl, rfl, id⟩
  | bind buyerId agentId bindable =>
      have old : pactId ≠ ledger.pactCount + 1 := by have := isPact.2; omega
      have kept : (ledger.bind buyerId agentId).pact pactId = ledger.pact pactId :=
        update_of_ne old _ _
      rw [kept]
      exact ⟨⟨isPact.1, isPact.2.trans (Nat.le_succ _)⟩, rfl, rfl, id⟩
  | close closedId isClosed live =>
      refine ⟨isPact, ?_⟩
      by_cases same : pactId = closedId
      · subst same
        simp [Ledger.close]
      · have kept : (ledger.close closedId).pact pactId = ledger.pact pactId :=
          update_of_ne same _ _
        rw [kept]
        exact ⟨rfl, rfl, id⟩
  | withdraw billId isBill minted => exact ⟨isPact, rfl, rfl, id⟩

end Ledger

end TrustChain.Bilateral
