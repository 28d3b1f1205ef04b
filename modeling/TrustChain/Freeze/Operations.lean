import TrustChain.Bilateral.Types

/-!
# EmergencyFreeze

The timed freezes and the circuit breaker that payouts are checked against, in the order of
the source. A query of the breaker may revert, and then so does the query it is part of.
-/

namespace TrustChain.Freeze

open Library Function

/-- `MAX_FREEZE_DURATION`: seven days. -/
def maxFreezeDuration : Nat := 7 * 24 * 60 * 60

structure Storage where
  freezeOperator : Address
  circuitBreaker : Address := 0
  globalFreezeUntil : Nat := 0
  agentFreezeUntil : Address → Nat := fun _ => 0
  billFreezeUntil : Nat → Nat := fun _ => 0
  bindingFreezeUntil : Nat → Nat := fun _ => 0

inductive Error where
  | unauthorized
  | zeroAddress
  | freezeDurationInvalid (duration : Nat)
  | freezeOperatorZero
  | panic
  deriving DecidableEq

instance : ArithmeticPanic Error := ⟨.panic⟩

inductive Event where
  | circuitBreakerUpdated (breaker : Address)
  | freezeOperatorUpdated (operator : Address)
  | globalFrozen (actor : Address) (until_ : Nat) (reason : String)
  | globalUnfrozen (actor : Address)
  | agentFrozen (agent : Address) (until_ : Nat) (reason : String)
  | agentUnfrozen (agent : Address)
  | billFrozen (billId until_ : Nat) (reason : String)
  | billUnfrozen (billId : Nat)
  | bindingFrozen (bindingId until_ : Nat) (reason : String)
  | bindingUnfrozen (bindingId : Nat)

/-- How the circuit breaker answers; `none` if its call reverts. -/
structure Breaker where
  isGlobalPaused : Option Bool := some false
  isAgentPaused : Address → Option Bool := fun _ => some false

section Functions

variable (admin sender : Address) (timestamp : Nat) (storage : Storage)

def onlyAdmin : Except Error Unit := require (sender = admin) .unauthorized

def onlyFreezeAuthority : Except Error Unit :=
  require (sender = admin ∨ sender = storage.freezeOperator) .unauthorized

/-- `_freezeUntil`. -/
def freezeUntil (duration : Nat) : Except Error Nat := do
  require (duration ≠ 0 ∧ duration ≤ maxFreezeDuration) (.freezeDurationInvalid duration)
  checkedAdd timestamp duration

def setCircuitBreaker (breaker : Address) : Except Error (Storage × Event) := do
  onlyAdmin admin sender
  .ok ({ storage with circuitBreaker := breaker }, .circuitBreakerUpdated breaker)

def setFreezeOperator (operator : Address) : Except Error (Storage × Event) := do
  onlyAdmin admin sender
  require (operator ≠ 0) .freezeOperatorZero
  .ok ({ storage with freezeOperator := operator }, .freezeOperatorUpdated operator)

def freezeGlobal (duration : Nat) (reason : String) : Except Error (Storage × Event) := do
  onlyFreezeAuthority admin sender storage
  let until_ ← freezeUntil timestamp duration
  .ok ({ storage with globalFreezeUntil := until_ }, .globalFrozen sender until_ reason)

def unfreezeGlobal : Except Error (Storage × Event) := do
  onlyFreezeAuthority admin sender storage
  .ok ({ storage with globalFreezeUntil := 0 }, .globalUnfrozen sender)

def freezeAgent (agent : Address) (duration : Nat) (reason : String) :
    Except Error (Storage × Event) := do
  onlyFreezeAuthority admin sender storage
  require (agent ≠ 0) .zeroAddress
  let until_ ← freezeUntil timestamp duration
  .ok ({ storage with agentFreezeUntil := update storage.agentFreezeUntil agent until_ },
    .agentFrozen agent until_ reason)

def unfreezeAgent (agent : Address) : Except Error (Storage × Event) := do
  onlyFreezeAuthority admin sender storage
  .ok ({ storage with agentFreezeUntil := update storage.agentFreezeUntil agent 0 },
    .agentUnfrozen agent)

def freezeBill (billId duration : Nat) (reason : String) : Except Error (Storage × Event) := do
  onlyFreezeAuthority admin sender storage
  let until_ ← freezeUntil timestamp duration
  .ok ({ storage with billFreezeUntil := update storage.billFreezeUntil billId until_ },
    .billFrozen billId until_ reason)

def unfreezeBill (billId : Nat) : Except Error (Storage × Event) := do
  onlyFreezeAuthority admin sender storage
  .ok ({ storage with billFreezeUntil := update storage.billFreezeUntil billId 0 },
    .billUnfrozen billId)

def freezeBinding (bindingId duration : Nat) (reason : String) :
    Except Error (Storage × Event) := do
  onlyFreezeAuthority admin sender storage
  let until_ ← freezeUntil timestamp duration
  .ok ({ storage with bindingFreezeUntil := update storage.bindingFreezeUntil bindingId until_ },
    .bindingFrozen bindingId until_ reason)

def unfreezeBinding (bindingId : Nat) : Except Error (Storage × Event) := do
  onlyFreezeAuthority admin sender storage
  .ok ({ storage with bindingFreezeUntil := update storage.bindingFreezeUntil bindingId 0 },
    .bindingUnfrozen bindingId)

end Functions

/-- The external functions that change the contract. -/
inductive Call where
  | setCircuitBreaker (breaker : Address)
  | setFreezeOperator (operator : Address)
  | freezeGlobal (duration : Nat) (reason : String)
  | unfreezeGlobal
  | freezeAgent (agent : Address) (duration : Nat) (reason : String)
  | unfreezeAgent (agent : Address)
  | freezeBill (billId duration : Nat) (reason : String)
  | unfreezeBill (billId : Nat)
  | freezeBinding (bindingId duration : Nat) (reason : String)
  | unfreezeBinding (bindingId : Nat)

def dispatch (admin sender : Address) (timestamp : Nat) (storage : Storage) :
    Call → Except Error (Storage × Event)
  | .setCircuitBreaker breaker => setCircuitBreaker admin sender storage breaker
  | .setFreezeOperator operator => setFreezeOperator admin sender storage operator
  | .freezeGlobal duration reason => freezeGlobal admin sender timestamp storage duration reason
  | .unfreezeGlobal => unfreezeGlobal admin sender storage
  | .freezeAgent agent duration reason =>
      freezeAgent admin sender timestamp storage agent duration reason
  | .unfreezeAgent agent => unfreezeAgent admin sender storage agent
  | .freezeBill billId duration reason =>
      freezeBill admin sender timestamp storage billId duration reason
  | .unfreezeBill billId => unfreezeBill admin sender storage billId
  | .freezeBinding bindingId duration reason =>
      freezeBinding admin sender timestamp storage bindingId duration reason
  | .unfreezeBinding bindingId => unfreezeBinding admin sender storage bindingId

/-! ## The query of a payout -/

/-- `_untilActive`. -/
def untilActive (timestamp until_ : Nat) : Bool := until_ ≠ 0 ∧ timestamp < until_

namespace Storage

variable (storage : Storage) (breaker : Breaker) (timestamp : Nat)

/-- `_breakerGlobalPaused`. -/
def breakerGlobalPaused : Option Bool :=
  if storage.circuitBreaker = 0 then some false else breaker.isGlobalPaused

/-- `_breakerAgentPaused`. -/
def breakerAgentPaused (agent : Address) : Option Bool :=
  if storage.circuitBreaker = 0 ∨ agent = 0 then some false else breaker.isAgentPaused agent

/-- The last question of `payoutBlocked`; the agent is not asked about if the buyer is paused. -/
def partiesPaused (buyerOwner agentOwner : Address) : Option Bool := do
  if ← storage.breakerAgentPaused breaker buyerOwner then some true
  else storage.breakerAgentPaused breaker agentOwner

/-- Whether a payout is blocked, by which scope and until when. -/
def payoutBlocked (bindingId buyerBillId agentBillId : Nat) (buyerOwner agentOwner : Address) :
    Option (Bool × Nat × Nat) :=
  if untilActive timestamp storage.globalFreezeUntil then some (true, 1, storage.globalFreezeUntil)
  else do
    if ← storage.breakerGlobalPaused breaker then some (true, 5, wordSize - 1)
    else if bindingId ≠ 0 ∧ untilActive timestamp (storage.bindingFreezeUntil bindingId) then
      some (true, 4, storage.bindingFreezeUntil bindingId)
    else if untilActive timestamp (storage.billFreezeUntil buyerBillId) then
      some (true, 3, storage.billFreezeUntil buyerBillId)
    else if untilActive timestamp (storage.billFreezeUntil agentBillId) then
      some (true, 3, storage.billFreezeUntil agentBillId)
    else if untilActive timestamp (storage.agentFreezeUntil buyerOwner) then
      some (true, 2, storage.agentFreezeUntil buyerOwner)
    else if untilActive timestamp (storage.agentFreezeUntil agentOwner) then
      some (true, 2, storage.agentFreezeUntil agentOwner)
    else if ← storage.partiesPaused breaker buyerOwner agentOwner then some (true, 5, wordSize - 1)
    else some (false, 0, 0)

end Storage

/-! ## Scopes -/

/-- What a freeze can be put on. -/
inductive Scope where
  | global
  | agent (agent : Address)
  | bill (billId : Nat)
  | binding (bindingId : Nat)
  deriving DecidableEq

/-- Until when a scope is frozen. -/
def Storage.frozenUntil (storage : Storage) : Scope → Nat
  | .global => storage.globalFreezeUntil
  | .agent agent => storage.agentFreezeUntil agent
  | .bill billId => storage.billFreezeUntil billId
  | .binding bindingId => storage.bindingFreezeUntil bindingId

/-- The scope that a call freezes. -/
def Call.freezes : Call → Option Scope
  | .freezeGlobal .. => some .global
  | .freezeAgent agent _ _ => some (.agent agent)
  | .freezeBill billId _ _ => some (.bill billId)
  | .freezeBinding bindingId _ _ => some (.binding bindingId)
  | _ => none

/-- The scopes that cover a payout. -/
def covering (bindingId buyerBillId agentBillId : Nat) (buyerOwner agentOwner : Address) :
    List Scope :=
  [.global, .binding bindingId, .bill buyerBillId, .bill agentBillId, .agent buyerOwner,
    .agent agentOwner]

section Scopes

variable {admin sender : Address} {timestamp : Nat} {storage next : Storage} {event : Event}
  {call : Call}

theorem freezeUntil_eq_ok {duration until_ : Nat} :
    freezeUntil timestamp duration = .ok until_ ↔
      (duration ≠ 0 ∧ duration ≤ maxFreezeDuration) ∧ timestamp + duration < wordSize ∧
        until_ = timestamp + duration := by
  simp only [freezeUntil, require_bind_eq_ok, checkedAdd_eq_ok]

/-- An entry that is written, or is left alone. -/
theorem update_cases {κ : Type} [DecidableEq κ] (records : κ → Nat) (key query : κ) (value : Nat) :
    update records key value query = records query ∨
      query = key ∧ update records key value query = value := by
  by_cases same : query = key
  · subst same
    exact .inr ⟨rfl, update_self _ _ _⟩
  · exact .inl (update_of_ne same _ _)

/-- An entry that is frozen, or is left alone. -/
theorem update_frozen {κ : Type} [DecidableEq κ] {records : κ → Nat} {key query : κ}
    {duration : Nat} (scope : κ → Scope) (short : duration ≤ maxFreezeDuration) :
    update records key (timestamp + duration) query = records query ∨
      update records key (timestamp + duration) query = 0 ∨ some (scope key) = some (scope query) ∧
        update records key (timestamp + duration) query ≤ timestamp + maxFreezeDuration := by
  rcases update_cases records key query (timestamp + duration) with kept | ⟨rfl, written⟩
  · exact .inl kept
  · exact .inr (.inr ⟨rfl, written.trans_le (Nat.add_le_add_left short _)⟩)

/-- A call lets a scope be, lifts its freeze, or freezes it for at most the maximum. -/
theorem dispatch_frozenUntil
    (ran : dispatch admin sender timestamp storage call = .ok (next, event)) (scope : Scope) :
    next.frozenUntil scope = storage.frozenUntil scope ∨ next.frozenUntil scope = 0 ∨
      call.freezes = some scope ∧ next.frozenUntil scope ≤ timestamp + maxFreezeDuration := by
  cases call with
  | setCircuitBreaker breaker =>
      simp only [dispatch, setCircuitBreaker, onlyAdmin, require_bind_eq_ok, Except.ok.injEq,
        Prod.mk.injEq] at ran
      obtain ⟨-, rfl, -⟩ := ran
      exact .inl (by cases scope <;> rfl)
  | setFreezeOperator operator =>
      simp only [dispatch, setFreezeOperator, onlyAdmin, require_bind_eq_ok, Except.ok.injEq,
        Prod.mk.injEq] at ran
      obtain ⟨-, -, rfl, -⟩ := ran
      exact .inl (by cases scope <;> rfl)
  | freezeGlobal duration reason =>
      simp only [dispatch, freezeGlobal, onlyFreezeAuthority, bind_eq_ok, freezeUntil_eq_ok,
        Except.ok.injEq, Prod.mk.injEq] at ran
      obtain ⟨_, -, _, ⟨⟨-, short⟩, -, rfl⟩, rfl, -⟩ := ran
      cases scope with
      | global => exact .inr (.inr ⟨rfl, Nat.add_le_add_left short _⟩)
      | _ => exact .inl rfl
  | unfreezeGlobal =>
      simp only [dispatch, unfreezeGlobal, onlyFreezeAuthority, require_bind_eq_ok, Except.ok.injEq,
        Prod.mk.injEq] at ran
      obtain ⟨-, rfl, -⟩ := ran
      cases scope with
      | global => exact .inr (.inl rfl)
      | _ => exact .inl rfl
  | freezeAgent agent duration reason =>
      simp only [dispatch, freezeAgent, onlyFreezeAuthority, bind_eq_ok, freezeUntil_eq_ok,
        Except.ok.injEq, Prod.mk.injEq] at ran
      obtain ⟨_, -, _, -, _, ⟨⟨-, short⟩, -, rfl⟩, rfl, -⟩ := ran
      cases scope with
      | agent other => exact update_frozen .agent short
      | _ => exact .inl rfl
  | unfreezeAgent agent =>
      simp only [dispatch, unfreezeAgent, onlyFreezeAuthority, require_bind_eq_ok, Except.ok.injEq,
        Prod.mk.injEq] at ran
      obtain ⟨-, rfl, -⟩ := ran
      cases scope with
      | agent other => exact (update_cases storage.agentFreezeUntil agent other 0).imp_right (.inl ·.2)
      | _ => exact .inl rfl
  | freezeBill billId duration reason =>
      simp only [dispatch, freezeBill, onlyFreezeAuthority, bind_eq_ok, freezeUntil_eq_ok,
        Except.ok.injEq, Prod.mk.injEq] at ran
      obtain ⟨_, -, _, ⟨⟨-, short⟩, -, rfl⟩, rfl, -⟩ := ran
      cases scope with
      | bill other => exact update_frozen .bill short
      | _ => exact .inl rfl
  | unfreezeBill billId =>
      simp only [dispatch, unfreezeBill, onlyFreezeAuthority, require_bind_eq_ok, Except.ok.injEq,
        Prod.mk.injEq] at ran
      obtain ⟨-, rfl, -⟩ := ran
      cases scope with
      | bill other => exact (update_cases storage.billFreezeUntil billId other 0).imp_right (.inl ·.2)
      | _ => exact .inl rfl
  | freezeBinding bindingId duration reason =>
      simp only [dispatch, freezeBinding, onlyFreezeAuthority, bind_eq_ok, freezeUntil_eq_ok,
        Except.ok.injEq, Prod.mk.injEq] at ran
      obtain ⟨_, -, _, ⟨⟨-, short⟩, -, rfl⟩, rfl, -⟩ := ran
      cases scope with
      | binding other => exact update_frozen .binding short
      | _ => exact .inl rfl
  | unfreezeBinding bindingId =>
      simp only [dispatch, unfreezeBinding, onlyFreezeAuthority, require_bind_eq_ok,
        Except.ok.injEq, Prod.mk.injEq] at ran
      obtain ⟨-, rfl, -⟩ := ran
      cases scope with
      | binding other =>
          exact (update_cases storage.bindingFreezeUntil bindingId other 0).imp_right (.inl ·.2)
      | _ => exact .inl rfl

theorem untilActive_of_le {until_ : Nat} (passed : until_ ≤ timestamp) :
    ¬untilActive timestamp until_ = true := by
  simp only [untilActive, ne_eq, decide_eq_true_eq, not_and, not_lt]
  exact fun _ => passed

/-- Without a breaker no payout is blocked once every scope that covers it is open again. -/
theorem payoutBlocked_passed {bindingId buyerBillId agentBillId : Nat}
    {buyerOwner agentOwner : Address} (breaker : Breaker) (unbroken : storage.circuitBreaker = 0)
    (passed : ∀ scope ∈ covering bindingId buyerBillId agentBillId buyerOwner agentOwner,
      storage.frozenUntil scope ≤ timestamp) :
    storage.payoutBlocked breaker timestamp bindingId buyerBillId agentBillId buyerOwner
      agentOwner = some (false, 0, 0) := by
  have unpaused : storage.breakerGlobalPaused breaker = some false := if_pos unbroken
  have unpausedAgent : ∀ agent, storage.breakerAgentPaused breaker agent = some false :=
    fun agent => if_pos (.inl unbroken)
  have thawed : ∀ scope ∈ covering bindingId buyerBillId agentBillId buyerOwner agentOwner,
      ¬untilActive timestamp (storage.frozenUntil scope) = true :=
    fun scope covers => untilActive_of_le (passed scope covers)
  simp only [covering, List.forall_mem_cons, Storage.frozenUntil] at thawed
  obtain ⟨global, binding, buyerBill, agentBill, buyer, agent, -⟩ := thawed
  simp only [Storage.payoutBlocked, Storage.partiesPaused, unpaused, unpausedAgent,
    Option.bind_eq_bind, Option.bind_some, Bool.false_eq_true, if_false]
  rw [if_neg global, if_neg fun both => binding both.2, if_neg buyerBill, if_neg agentBill,
    if_neg buyer, if_neg agent]

end Scopes

end TrustChain.Freeze
