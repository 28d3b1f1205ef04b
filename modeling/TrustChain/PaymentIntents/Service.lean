import TrustChain.Library.OrderedTable
import TrustChain.Library.Outcome
import TrustChain.Library.Transition

/-!
# The payment intent service

Payment intents are made under an idempotency key, bound to a task or a voucher, settled with
their task and expired by a periodic sweep. Every operation reads the clock, and clocks do not go
back.
-/

namespace TrustChain.PaymentIntents

open Library

abbrev Time := Nat

/-- `INTENT_STATUSES` -/
inductive Status where
  | created
  | authorized
  | settled
  | cancelled
  | expired
deriving DecidableEq

def Status.text : Status → String
  | .created => "created"
  | .authorized => "authorized"
  | .settled => "settled"
  | .cancelled => "cancelled"
  | .expired => "expired"

/-- What the parties agree on. -/
structure Terms where
  merchantRef : String
  payer : String
  payee : String
  token : String
  amount : String
  chainId : Int
  policyId : String
deriving DecidableEq

structure PaymentIntent where
  terms : Terms
  idempotencyKey : String
  status : Status
  expiresAt : Time
  taskId : Option String
  voucherId : Option String
  createdAt : Time
  updatedAt : Time
deriving DecidableEq

/-- Whether an optional text is neither missing nor empty. -/
def truthy (text : Option String) : Bool := text.any (· ≠ "")

namespace PaymentIntent

variable (intent : PaymentIntent)

/-- The statuses that settling and expiring look for. -/
def isOpen : Bool := intent.status = .created || intent.status = .authorized

/-- The statuses that binding rejects. -/
def closed : Bool :=
  intent.status = .settled || intent.status = .cancelled || intent.status = .expired

end PaymentIntent

inductive Failure where
  | http (statusCode : Nat) (detail : String)
  /-- The database finds the key or the identifier taken. -/
  | integrityError
deriving DecidableEq

abbrev Intents := OrderedTable String PaymentIntent

def findByKey (intents : Intents) (idempotencyKey : String) : Option (String × PaymentIntent) :=
  intents.rows.find? fun row => row.2.idempotencyKey = idempotencyKey

/-- The row that `create_payment_intent` makes: it is authorized at once if it comes with a task or a
voucher. -/
def newIntent (now later : Time) (terms : Terms) (expiresAt : Time) (idempotencyKey : String)
    (taskId voucherId : Option String) : PaymentIntent :=
  let row : PaymentIntent :=
    { terms, idempotencyKey, status := .created, expiresAt, taskId, voucherId,
      createdAt := now, updatedAt := now }
  if truthy taskId || truthy voucherId then
    { row with status := .authorized, updatedAt := later }
  else row

/-- `create_payment_intent`: the intents afterwards, the identifier of the answer, and whether it
is a replay. `isdigit` is the test of a text for digits, `now` and `later` are the two readings of
the clock and `intentId` is the identifier drawn. -/
def createPaymentIntent (isdigit : String → Bool) (intents : Intents) (now later : Time)
    (intentId : String) (terms : Terms) (expiresAt : Time) (idempotencyKey : String)
    (taskId voucherId : Option String) : Except Failure (Intents × String × Bool) :=
  if !isdigit terms.amount then .error (.http 400 "amount must be numeric string")
  else
    match findByKey intents idempotencyKey with
    | some (replay, _) => .ok (intents, replay, true)
    | none =>
        if expiresAt ≤ now then .error (.http 400 "expiresAt must be in the future")
        else if (intents.get intentId).isSome then .error .integrityError
        else
          let row := newIntent now later terms expiresAt idempotencyKey taskId voucherId
          .ok (intents.set intentId row, intentId, false)

/-- The row that `bind_payment_intent` leaves. -/
def PaymentIntent.bind (row : PaymentIntent) (now : Time) (taskId voucherId : Option String) :
    PaymentIntent :=
  let row := if truthy taskId then { row with taskId } else row
  let row := if truthy voucherId then { row with voucherId } else row
  let row := if truthy row.taskId || truthy row.voucherId then
    { row with status := .authorized } else row
  { row with updatedAt := now }

/-- `bind_payment_intent` -/
def bindPaymentIntent (intents : Intents) (now : Time) (intentId : String)
    (taskId voucherId : Option String) : Except Failure Intents :=
  match intents.get intentId with
  | none => .error (.http 404 "PAYMENT_INTENT_NOT_FOUND")
  | some row =>
      if row.closed then .error (.http 409 ("cannot bind intent in status " ++ row.status.text))
      else .ok (intents.modify intentId fun row => row.bind now taskId voucherId)

/-- Whether settling a task reaches the intent. -/
def PaymentIntent.linkedTo (row : PaymentIntent) (taskId : String) : Bool :=
  row.taskId = some taskId && row.isOpen

/-- `mark_intents_settled_for_task`, with the number of intents settled. -/
def markIntentsSettledForTask (intents : Intents) (now : Time) (taskId : String) :
    Intents × Nat :=
  (intents.map fun _ row =>
      if row.linkedTo taskId then { row with status := .settled, updatedAt := now } else row,
    intents.rows.countP fun row => row.2.linkedTo taskId)

/-- Whether the sweep expires the intent. -/
def PaymentIntent.stale (row : PaymentIntent) (now : Time) : Bool :=
  row.isOpen && row.expiresAt < now

/-- `expire_stale_intents`, with the number of intents expired. -/
def expireStaleIntents (intents : Intents) (now : Time) : Intents × Nat :=
  (intents.map fun _ row =>
      if row.stale now then { row with status := .expired, updatedAt := now } else row,
    intents.rows.countP fun row => row.2.stale now)

/-! ## The system -/

structure World where
  intents : Intents := .empty
  now : Time := 0

inductive Action where
  | create (now later : Time) (intentId : String) (terms : Terms) (expiresAt : Time)
      (idempotencyKey : String) (taskId voucherId : Option String)
  | bind (now : Time) (intentId : String) (taskId voucherId : Option String)
  | settle (now : Time) (taskId : String)
  | expire (now : Time)
deriving DecidableEq

/-- Perform an operation; one that raises changes nothing and is left out. -/
def perform (isdigit : String → Bool) (world : World) : Action → Option World
  | .create now later intentId terms expiresAt idempotencyKey taskId voucherId =>
      if world.now ≤ now ∧ now ≤ later then
        (createPaymentIntent isdigit world.intents now later intentId terms expiresAt
          idempotencyKey taskId voucherId).toOption.map fun created => ⟨created.1, later⟩
      else none
  | .bind now intentId taskId voucherId =>
      if world.now ≤ now then
        (bindPaymentIntent world.intents now intentId taskId voucherId).toOption.map
          fun intents => ⟨intents, now⟩
      else none
  | .settle now taskId =>
      if world.now ≤ now then some ⟨(markIntentsSettledForTask world.intents now taskId).1, now⟩
      else none
  | .expire now =>
      if world.now ≤ now then some ⟨(expireStaleIntents world.intents now).1, now⟩ else none

def system (isdigit : String → Bool) : TransitionSystem World Action where
  Init world := world.intents = .empty
  Step world action next := perform isdigit world action = some next

end TrustChain.PaymentIntents
