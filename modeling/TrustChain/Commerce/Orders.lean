import Mathlib.Data.List.Infix
import TrustChain.Library.Doubles
import TrustChain.Runtime.Keys

/-!
# JSON values

What Python makes of a JSON document, and the built-in functions that the services apply to the
parts of it. How a float, a list or a dict is printed is a parameter.
-/

namespace TrustChain.Commerce

open Library

inductive Value where
  | null
  | bool (value : Bool)
  | int (value : Int)
  | float (value : Double)
  | text (value : String)
  | list (items : List Value)
  | dict (entries : List (String × Value))

/-- The entries of a JSON object; no key occurs twice. -/
abbrev Dict := List (String × Value)

/-- `dict.get(key)`. -/
def Dict.get (dict : Dict) (key : String) : Value := (dict.lookup key).getD .null

/-- `{**dict, key: value}`. -/
def Dict.set (dict : Dict) (key : String) (value : Value) : Dict :=
  (key, value) :: dict.filter (·.1 ≠ key)

namespace Value

/-- `bool(value)`. -/
def truthy : Value → Bool
  | .null => false
  | .bool value => value
  | .int value => value ≠ 0
  | .float value => value ≠ .finite 0
  | .text value => value ≠ ""
  | .list items => !items.isEmpty
  | .dict entries => !entries.isEmpty

/-- `first or second`. -/
def orElse (first second : Value) : Value := if first.truthy then first else second

/-- `value is None`. -/
def isNone : Value → Bool
  | .null => true
  | _ => false

/-- `value is True`. -/
def isTrue : Value → Bool
  | .bool value => value
  | _ => false

/-- `float(value)`, unless it raises. -/
def toFloat : Value → Option Double
  | .bool value => some (.finite (if value then 1 else 0))
  | .int value =>
      match Double.round value with
      | .infinity _ => none
      | rounded => some rounded
  | .float value => some value
  | .text value => Double.parse (Runtime.strip value)
  | .null | .list _ | .dict _ => none

/-- `str(value)`. -/
def str (print : Value → String) : Value → String
  | .null => "None"
  | .bool value => if value then "True" else "False"
  | .int value => toString value
  | .text value => value
  | other => print other

/-- `value == text`. -/
def isText (text : String) : Value → Bool
  | .text value => value = text
  | _ => false

/-- `text in value`, unless it raises. -/
def contains (value : Value) (text : String) : Option Bool :=
  match value with
  | .text whole => some (text.toList <:+: whole.toList)
  | .list items => some (items.any (·.isText text))
  | .dict entries => some (entries.any (·.1 == text))
  | _ => none

/-- `list(value)`, unless it raises. -/
def items : Value → Option (List Value)
  | .text value => some (value.toList.map fun char => .text char.toString)
  | .list items => some items
  | .dict entries => some (entries.map fun entry => .text entry.1)
  | _ => none

end Value

/-! ## Orders of the mini app

The state machine of an order and, next to it, the one of its fulfilment. An operation that
raises leaves the order alone, but for a policy check, which rejects it first.
-/

abbrev OrderId := String

inductive OrderStatus where
  | draft | quoted | signed | policyChecked | locked | executed | evidenceSubmitted | verified
  | settled | refunded | rejected
deriving DecidableEq

inductive FulfillmentStatus where
  | pendingAccept | accepted | processing | delivered | verified | settled | disputed | refunded
deriving DecidableEq

/-- `policy_result`. -/
inductive PolicyResult where
  | rejected (reason : String)
  | ok (selfDeal : Bool) (singleLimitUsdc dailyLimitUsdc spentTodayUsdc : Double)

/-- What the two sides agree on. -/
structure Terms where
  amountUsdc : String
  sellerIdentityId : Option String
  sellerWallet : Option String
deriving DecidableEq

/-- An entry of the history. The terms of the order at that time, and the policy of a check, are
kept for the proofs. -/
structure HistoryEntry where
  time : Int
  status : OrderStatus
  note : String
  terms : Terms
  policy : Option Dict

structure MiniAppOrder where
  buyerIdentityId : String
  intent : Dict
  status : OrderStatus := .draft
  fulfillmentStatus : FulfillmentStatus := .pendingAccept
  terms : Terms
  buyerWallet : Option String := none
  bindingId : Option Int := none
  evidence : Option Dict := none
  verificationRunId : Option String := none
  updatedAt : Int := 0
  signatures : List (String × String) := []
  policyResult : Option PolicyResult := none
  history : List HistoryEntry := []

inductive OrderError where
  | notFound
  | cannotAcceptFrom (fulfillment : FulfillmentStatus)
  | cannotAcceptFromStatus (status : OrderStatus)
  | notLockedForProcessing
  | cannotStartProcessingFrom (fulfillment : FulfillmentStatus)
  | notLockedForDelivery
  | cannotDeliverFrom (fulfillment : FulfillmentStatus)
  | invalidStatusForPolicy (status : OrderStatus)
  /-- What the policy or the order has for a number is none. -/
  | notANumber
  | notAContainer
  | infiniteApproveForbidden
  | policyRejected (reason : String)
  | policyCheckRequired
  | notLockedForEvidence
  | verificationRequired
  | alreadySettled

/-- `float(value or default)`, unless it raises. -/
def numberOr (value : Value) (default : Double) : Option Double :=
  (value.orElse (.float default)).toFloat

def singleLimit (policy : Dict) : Option Double :=
  numberOr (policy.get "single_limit_usdc") (.finite (10 ^ 18))

def dailyLimit (policy : Dict) : Option Double :=
  numberOr (policy.get "daily_limit_usdc") (.finite (10 ^ 18))

def spentToday (policy : Dict) : Option Double :=
  numberOr (policy.get "spent_today_usdc") (.finite 0)

/-- `wallet.lower() if wallet else None`. -/
def lowered (wallet : Option String) : Option String := (wallet.filter (· ≠ "")).map (·.toLower)

namespace MiniAppOrder

/-- `_touch`. -/
def touch (order : MiniAppOrder) (now : Int) (note : String) (policy : Option Dict := none) :
    MiniAppOrder :=
  { order with
    updatedAt := now
    history := order.history ++ [⟨now, order.status, note, order.terms, policy⟩] }

section Touch

variable {order : MiniAppOrder} {now : Int} {note : String} {policy : Option Dict}

@[simp] theorem touch_status : (order.touch now note policy).status = order.status := rfl

@[simp] theorem touch_fulfillmentStatus :
    (order.touch now note policy).fulfillmentStatus = order.fulfillmentStatus := rfl

@[simp] theorem touch_terms : (order.touch now note policy).terms = order.terms := rfl

@[simp] theorem touch_evidence : (order.touch now note policy).evidence = order.evidence := rfl

@[simp] theorem touch_signatures : (order.touch now note policy).signatures = order.signatures :=
  rfl

@[simp] theorem touch_history : (order.touch now note policy).history =
    order.history ++ [⟨now, order.status, note, order.terms, policy⟩] := rfl

end Touch

/-- `create_order`. -/
def create (now : Int) (buyerIdentityId : String) (intent : Dict) (buyerWallet : Option String)
    (print : Value → String) : MiniAppOrder :=
  touch {
    buyerIdentityId
    intent
    terms := ⟨((intent.get "amount_usdc").orElse (.text "0")).str print, none, none⟩
    buyerWallet := lowered buyerWallet } now "created"

variable (order : MiniAppOrder) (now : Int)

/-- `attach_offer`. -/
def attachOffer (offer : Dict) (sellerIdentityId : String) (sellerWallet : Option String)
    (print : Value → String) : MiniAppOrder :=
  touch { order with
    terms := {
      amountUsdc :=
        if (offer.get "amount_usdc").isNone then order.terms.amountUsdc
        else (offer.get "amount_usdc").str print
      sellerIdentityId := some sellerIdentityId
      sellerWallet := lowered sellerWallet }
    status := .quoted
    fulfillmentStatus := .pendingAccept } now "offer_attached"

/-- `accept_order`. -/
def accept : Except OrderError MiniAppOrder := do
  require (order.fulfillmentStatus = .pendingAccept) (.cannotAcceptFrom order.fulfillmentStatus)
  require (order.status ∈ [.quoted, .signed, .policyChecked, .locked])
    (.cannotAcceptFromStatus order.status)
  .ok (touch { order with fulfillmentStatus := .accepted } now "fulfillment_accepted")

/-- `start_processing`. -/
def startProcessing : Except OrderError MiniAppOrder := do
  require (order.status = .locked) .notLockedForProcessing
  require (order.fulfillmentStatus = .accepted)
    (.cannotStartProcessingFrom order.fulfillmentStatus)
  .ok (touch { order with fulfillmentStatus := .processing } now "fulfillment_processing")

/-- `deliver_order`. -/
def deliver (evidence : Dict) : Except OrderError MiniAppOrder := do
  require (order.status = .locked) .notLockedForDelivery
  require (order.fulfillmentStatus ∈ [.accepted, .processing])
    (.cannotDeliverFrom order.fulfillmentStatus)
  let delivered := { order with
    evidence := some evidence
    status := .evidenceSubmitted
    fulfillmentStatus := .delivered }
  .ok ((delivered.touch now "evidence_submitted").touch now "fulfillment_delivered")

/-- `order.signatures[role] = signature`. -/
def setSignature (role signature : String) : List (String × String) :=
  (role, signature) :: order.signatures.filter (·.1 ≠ role)

/-- Whether a signature of the role makes both sides have signed. -/
def completes (role : String) : Bool :=
  (order.setSignature role "").any (·.1 = "buyer") && (order.setSignature role "").any (·.1 = "seller")

/-- `sign_order`. -/
def sign (role signature : String) : MiniAppOrder :=
  let signed := { order with signatures := order.setSignature role signature }
  if order.completes role then touch { signed with status := .signed } now "both_signed"
  else signed.touch now ("signed:" ++ role)

/-- `order.buyer_wallet and order.seller_wallet and order.buyer_wallet == order.seller_wallet`. -/
def selfDeal : Bool :=
  order.buyerWallet.any (· ≠ "") && order.terms.sellerWallet.any (· ≠ "") &&
    order.buyerWallet = order.terms.sellerWallet

/-- `float(order.amount_usdc or 0)`. -/
def amount : Option Double := numberOr (.text order.terms.amountUsdc) (.finite 0)

/-- `order.seller_identity_id not in allowed_agents`, unless the policy allows everybody; `none`
where the test raises. -/
def excludedBy (policy : Dict) : Option Bool :=
  let allowedAgents := policy.get "allowed_agents"
  match order.terms.sellerIdentityId.filter (· ≠ "") with
  | none => some false
  | some seller =>
      if allowedAgents.truthy then (allowedAgents.contains seller).map (!·) else some false

/-- Reject the order for a reason. -/
def reject (reason : String) : MiniAppOrder × Option OrderError :=
  (touch { order with status := .rejected, policyResult := some (.rejected reason) } now
    "policy_rejected", some (.policyRejected reason))

/-- `apply_policy`: the order afterwards, and the error if there is one. -/
def applyPolicy (policy : Dict) : MiniAppOrder × Option OrderError :=
  if order.status ∉ [.signed, .quoted, .policyChecked] then
    (order, some (.invalidStatusForPolicy order.status))
  else
    match order.amount, singleLimit policy, dailyLimit policy, spentToday policy with
    | some amount, some single, some daily, some spent =>
        if (policy.get "infinite_approve").isTrue then (order, some .infiniteApproveForbidden)
        else if single.lt amount then order.reject now "single_limit_exceeded"
        else if daily.lt (spent.add amount) then order.reject now "daily_limit_exceeded"
        else
          match order.excludedBy policy with
          | none => (order, some .notAContainer)
          | some true => order.reject now "agent_not_allowlisted"
          | some false =>
              (touch { order with
                policyResult := some (.ok order.selfDeal single daily spent)
                status := .policyChecked } now "policy_ok" (some policy), none)
    | _, _, _, _ => (order, some .notANumber)

/-- `mark_locked`. -/
def markLocked (bindingId : Option Int) : Except OrderError MiniAppOrder := do
  require (order.status = .policyChecked) .policyCheckRequired
  .ok (touch { order with bindingId, status := .locked } now "locked")

/-- `submit_evidence`. -/
def submitEvidence (evidence : Dict) : Except OrderError MiniAppOrder := do
  require (order.status ∈ [.locked, .executed, .evidenceSubmitted]) .notLockedForEvidence
  .ok (touch { order with
    evidence := some evidence
    status := .evidenceSubmitted
    fulfillmentStatus :=
      if order.fulfillmentStatus ∈ [.pendingAccept, .accepted, .processing] then .delivered
      else order.fulfillmentStatus } now "evidence_submitted")

/-- `mark_verified`. -/
def markVerified (runId : String) : MiniAppOrder :=
  touch { order with
    verificationRunId := some runId
    status := .verified
    fulfillmentStatus := .verified } now "verified"

/-- `mark_settled`. -/
def markSettled : Except OrderError MiniAppOrder := do
  require (order.status = .verified) .verificationRequired
  .ok (touch { order with status := .settled, fulfillmentStatus := .settled } now "settled")

/-- `mark_refunded`. -/
def markRefunded : Except OrderError MiniAppOrder := do
  require (order.status ≠ .settled) .alreadySettled
  .ok (touch { order with status := .refunded, fulfillmentStatus := .refunded } now "refunded")

/-- `mark_disputed`. -/
def markDisputed : MiniAppOrder :=
  if order.fulfillmentStatus ∈ [.settled, .refunded] then order
  else touch { order with fulfillmentStatus := .disputed } now "fulfillment_disputed"

/-- `restore_fulfillment`. -/
def restoreFulfillment : MiniAppOrder :=
  if order.fulfillmentStatus ≠ .disputed then order
  else
    touch { order with
      fulfillmentStatus :=
        match order.status with
        | .evidenceSubmitted => .delivered
        | .verified => .verified
        | .settled => .settled
        | _ => .accepted } now "fulfillment_restored"

/-- How a policy check ends: it raises and leaves the order alone, it rejects the order, or it
has compared the amount to the limits. -/
inductive PolicyOutcome (policy : Dict) : MiniAppOrder × Option OrderError → Prop
  | raised (error : OrderError) : PolicyOutcome policy (order, some error)
  | rejected (reason : String) :
      order.status ∈ [.signed, .quoted, .policyChecked] →
      PolicyOutcome policy (order.reject now reason)
  | checked (amount single daily spent : Double) :
      order.status ∈ [.signed, .quoted, .policyChecked] →
      order.amount = some amount → singleLimit policy = some single →
      dailyLimit policy = some daily → spentToday policy = some spent →
      single.lt amount = false → daily.lt (spent.add amount) = false →
      order.excludedBy policy = some false →
      PolicyOutcome policy
        (touch { order with
          policyResult := some (.ok order.selfDeal single daily spent)
          status := .policyChecked } now "policy_ok" (some policy), none)

theorem applyPolicy_outcome (policy : Dict) :
    order.PolicyOutcome now policy (order.applyPolicy now policy) := by
  unfold applyPolicy
  split
  case isTrue invalid => exact .raised _
  case isFalse valid =>
    rw [not_not] at valid
    split
    case h_1 amount single daily spent amountIs singleIs dailyIs spentIs =>
      split
      · exact .raised _
      · split
        · exact .rejected _ valid
        · rename_i withinSingle
          split
          · exact .rejected _ valid
          · rename_i withinDaily
            split
            case h_1 => exact .raised _
            case h_2 => exact .rejected _ valid
            case h_3 included =>
              exact .checked amount single daily spent valid amountIs singleIs dailyIs spentIs
                (Bool.eq_false_of_not_eq_true withinSingle)
                (Bool.eq_false_of_not_eq_true withinDaily) included
    case h_2 => exact .raised _

end MiniAppOrder

end TrustChain.Commerce
