import TrustChain.Commerce.Orders

/-!
# The commerce endpoints

Orders, bills, verification runs, risk assessments and disputes are stores of their own, which
the endpoints and the sweep of timed-out escrows update one after the other. An endpoint that
refuses a request keeps what it has changed so far.
-/

namespace TrustChain.Commerce

open Library Function

structure Bill where
  status : String := "created"
  bindingId : Option Int := none
deriving DecidableEq

inductive VerificationStatus where
  | pending | pass | fail | riskHold
deriving DecidableEq

structure VerificationRun where
  runId : String
  status : VerificationStatus

structure RiskAssessment where
  score : Nat
  flags : List String
  hold : Bool

inductive DisputeStatus where
  | opened | resolved
deriving DecidableEq

abbrev DisputeId := String

structure DisputeCase where
  orderId : OrderId
  openedBy : String
  reason : String
  status : DisputeStatus := .opened
  resolution : Dict := []

/-- The stores. The bills of an order are in the order of their creation. -/
structure World where
  orders : OrderId → Option MiniAppOrder := fun _ => none
  bills : OrderId → List Bill := fun _ => []
  runs : OrderId → Option VerificationRun := fun _ => none
  risks : OrderId → Option RiskAssessment := fun _ => none
  disputes : Table DisputeId DisputeCase := .empty

inductive HttpError where
  | orderNotFound
  | notTheSeller
  | conflict (error : OrderError)
  | forbidden (error : OrderError)
  | evidenceRequired
  | verificationRequired
  | notPassed (status : VerificationStatus)
  | riskHold
  | openDispute (disputeId : DisputeId)
  | bindingRequired
  | alreadySettled
  | notAnArbitrator
  | disputeNotFound
  /-- An exception that no handler expects. -/
  | internal

/-- The stores after a request, and the error of a refused one. -/
abbrev Reply := World × Option HttpError

namespace World

variable (world : World)

def setOrder (orderId : OrderId) (order : MiniAppOrder) : World :=
  { world with orders := update world.orders orderId (some order) }

/-- `create_bill`. -/
def createBill (orderId : OrderId) : World :=
  { world with bills := update world.bills orderId (world.bills orderId ++ [{}]) }

/-- `get_bill_by_order`. -/
def getBillByOrder (orderId : OrderId) : Option Bill := (world.bills orderId).head?

/-- `update_bill`, which nobody misses if there is no bill. -/
def updateBill (orderId : OrderId) (change : Bill → Bill) : World :=
  { world with bills := update world.bills orderId ((world.bills orderId).modifyHead change) }

/-- The disputes of an order with the status open. -/
def openDisputes (orderId : OrderId) : List DisputeId :=
  (world.disputes.rows.filter fun row =>
    row.2.orderId = orderId ∧ row.2.status = .opened).map Prod.fst

/-- An operation on the order that may raise. -/
def change (orderId : OrderId) (operation : MiniAppOrder → Except OrderError MiniAppOrder) : Reply :=
  match world.orders orderId with
  | none => (world, some .orderNotFound)
  | some order =>
      match operation order with
      | .error error => (world, some (.conflict error))
      | .ok next => (world.setOrder orderId next, none)

end World

/-! ## Verification and risk -/

/-- The verdict of `run_verification`; `none` where it raises. -/
def runVerification (print : Value → String) (intent evidence : Dict) (riskFlags : List String) :
    Option VerificationStatus := do
  let expectedProof := (intent.get "expected_proof_hash").orElse (intent.get "proof_hash")
  let gotProof := (evidence.get "proof_hash").orElse (evidence.get "expected_proof_hash")
  let expectedAmount := intent.get "amount_usdc"
  let gotAmount := evidence.get "amount_usdc"
  let failed := intent.isEmpty || evidence.isEmpty ||
    (expectedProof.truthy && gotProof.truthy && expectedProof.str print ≠ gotProof.str print) ||
    (!expectedAmount.isNone && !gotAmount.isNone && expectedAmount.str print ≠ gotAmount.str print) ||
    (evidence.get "trust_frontend_tg_id").isTrue ||
    ((evidence.get "merchant_self_only").isTrue && !(evidence.get "independent_attestation").truthy)
  let evidenceFlags ← ((evidence.get "risk_flags").orElse (.list [])).items
  if failed then some .fail
  else if riskFlags.isEmpty && evidenceFlags.isEmpty then some .pass
  else some .riskHold

/-- `assess_risk`; `none` where it raises. -/
def assessRisk (intent evidence : Dict) (selfDeal : Bool) : Option RiskAssessment := do
  let scene := ((intent.get "scene_id").orElse (intent.get "category")).orElse (.text "")
  let amount ← numberOr ((intent.get "amount_usdc").orElse (evidence.get "amount_usdc")) (.finite 0)
  let highRisk := scene.isText "high_risk"
  let highAmount := Double.le (.finite 1000) amount
  let selfOnly := (evidence.get "merchant_self_only").truthy
  let score := (if highRisk then 40 else 0) + (if selfDeal then 50 else 0) +
    (if highAmount then 20 else 0) + (if selfOnly then 30 else 0)
  let flags := (if highRisk then ["high_risk_scene"] else []) ++
    (if selfDeal then ["self_deal"] else []) ++ (if highAmount then ["high_amount"] else []) ++
    (if selfOnly then ["merchant_self_only"] else [])
  let hold := 50 ≤ score || (highRisk && Double.le (.finite 300) amount)
  some ⟨score, flags, hold⟩

/-! ## Endpoints -/

section Endpoints

variable (print : Value → String) (world : World) (now : Int) (orderId : OrderId)

/-- The assessment of an order as it stands. -/
def riskOf (order : MiniAppOrder) : Option RiskAssessment :=
  assessRisk (order.intent.set "amount_usdc" (.text order.terms.amountUsdc))
    (order.evidence.getD []) order.selfDeal

def createOrder (buyerIdentityId : String) (buyerWallet : Option String) (intent : Dict)
    (offer : Option (Dict × String × Option String)) : World :=
  let order := MiniAppOrder.create now buyerIdentityId intent buyerWallet print
  match offer with
  | none => world.setOrder orderId order
  | some (offer, sellerIdentityId, sellerWallet) =>
      (world.setOrder orderId (order.attachOffer now offer sellerIdentityId sellerWallet
        print)).createBill orderId

/-- `orders.attach_offer` on its own. -/
def attachOffer (offer : Dict) (sellerIdentityId : String) (sellerWallet : Option String) : Reply :=
  world.change orderId fun order =>
    .ok (order.attachOffer now offer sellerIdentityId sellerWallet print)

inductive Role where
  | buyer | seller
deriving DecidableEq

def Role.value : Role → String
  | .buyer => "buyer"
  | .seller => "seller"

def signOrder (role : Role) (signature : String) : Reply :=
  world.change orderId fun order => .ok (order.sign now role.value signature)

/-- `_require_seller`. -/
def requireSeller (identityId : Option String) (order : MiniAppOrder) : Bool :=
  match order.terms.sellerIdentityId, identityId with
  | some seller, some identity =>
      seller = "" || seller = "kid_unknown_seller" || identity = "" || identity = seller
  | _, _ => true

/-- An operation for the seller alone. -/
def sellerChange (identityId : Option String)
    (operation : MiniAppOrder → Except OrderError MiniAppOrder) : Reply :=
  match world.orders orderId with
  | none => (world, some .orderNotFound)
  | some order =>
      if requireSeller identityId order then world.change orderId operation
      else (world, some .notTheSeller)

def acceptOrder (identityId : Option String) : Reply :=
  sellerChange world orderId identityId (·.accept now)

def startOrder (identityId : Option String) : Reply :=
  sellerChange world orderId identityId (·.startProcessing now)

def deliverOrder (identityId : Option String) (evidence : Dict) : Reply :=
  sellerChange world orderId identityId (·.deliver now evidence)

/-- How the endpoints answer to the errors of a policy check. -/
def policyError : OrderError → HttpError
  | .infiniteApproveForbidden => .forbidden .infiniteApproveForbidden
  | .policyRejected reason => .forbidden (.policyRejected reason)
  | error => .conflict error

def policyCheck (policy : Dict) : Reply :=
  match world.orders orderId with
  | none => (world, some .orderNotFound)
  | some order =>
      let (checked, error) := order.applyPolicy now policy
      (world.setOrder orderId checked, error.map policyError)

/-- `settlement_lock`; a number that is none is no permission error here. -/
def settlementLock (bindingId : Option Int) (policy : Dict) : Reply :=
  match world.orders orderId with
  | none => (world, some .orderNotFound)
  | some order =>
      let (checked, error) :=
        if order.status = .signed then order.applyPolicy now policy else (order, none)
      let checkedWorld := world.setOrder orderId checked
      match error with
      | some (.infiniteApproveForbidden) => (checkedWorld, some (.forbidden .infiniteApproveForbidden))
      | some (.policyRejected reason) => (checkedWorld, some (.forbidden (.policyRejected reason)))
      | some _ => (checkedWorld, some .internal)
      | none =>
          match checked.markLocked now bindingId with
          | .error error => (checkedWorld, some (.conflict error))
          | .ok locked =>
              ((world.setOrder orderId locked).updateBill orderId fun bill =>
                { bill with status := "locked", bindingId }, none)

def submitEvidence (evidence : Dict) : Reply :=
  world.change orderId (·.submitEvidence now evidence)

def riskAssess : Reply :=
  match world.orders orderId with
  | none => (world, some .orderNotFound)
  | some order =>
      match riskOf order with
      | none => (world, some .internal)
      | some risk => ({ world with risks := update world.risks orderId (some risk) }, none)

/-- The verdict of a run on an order with evidence, and the assessment that it rests on. -/
def verdict (order : MiniAppOrder) (riskFlags : List String) :
    Option (RiskAssessment × VerificationStatus) := do
  let risk ← (world.risks orderId).or (riskOf order)
  let flags := if risk.hold then riskFlags ++ risk.flags ++ ["risk_hold"] else riskFlags
  let status ← runVerification print order.intent (order.evidence.getD []) flags
  some (risk, status)

def verificationRuns (riskFlags : List String) (runId : String) : Reply :=
  match world.orders orderId with
  | none => (world, some .orderNotFound)
  | some order =>
      if order.evidence.getD [] = [] then (world, some .evidenceRequired)
      else
        match verdict print world orderId order riskFlags with
        | none => ({ world with
            risks := update world.risks orderId ((world.risks orderId).or (riskOf order)) },
            some .internal)
        | some (risk, status) =>
            let recorded := { world with
              risks := update world.risks orderId (some risk)
              runs := update world.runs orderId (some ⟨runId, status⟩) }
            if status = .pass then
              (recorded.setOrder orderId (order.markVerified now runId), none)
            else (recorded, none)

def settlementFinalize : Reply :=
  match world.orders orderId with
  | none => (world, some .orderNotFound)
  | some order =>
      match world.runs orderId with
      | none => (world, some .verificationRequired)
      | some run =>
          if run.status ≠ .pass then (world, some (.notPassed run.status))
          else if (world.risks orderId).any (·.hold) then (world, some .riskHold)
          else
            match world.openDisputes orderId with
            | disputeId :: _ => (world, some (.openDispute disputeId))
            | [] =>
                if order.bindingId = none then (world, some .bindingRequired)
                else
                  match order.markSettled now with
                  | .error error => (world, some (.conflict error))
                  | .ok settled =>
                      ((world.setOrder orderId settled).updateBill orderId fun bill =>
                        { bill with status := "settled", bindingId := order.bindingId }, none)

/-- `open_dispute` under an identifier drawn at random. -/
def openDispute (disputeId : DisputeId) (openedBy reason : String) : Reply :=
  match world.orders orderId with
  | none => (world, some .orderNotFound)
  | some order =>
      if order.status = .settled then (world, some .alreadySettled)
      else
        (({ world with
            disputes := world.disputes.set disputeId { orderId, openedBy, reason } }.setOrder
          orderId (order.markDisputed now)).updateBill orderId
            fun bill => { bill with status := "disputed" }, none)

/-- Whether a resolution is for the buyer. -/
def refunds (resolution : Dict) : Bool :=
  let outcome := ((resolution.get "action").orElse (resolution.get "outcome")).orElse (.text "")
  "refund".toList <:+: (outcome.str print).toLower.toList

/-- `resolve_dispute`, for a session that `_require_arbitrator` lets pass or not. -/
def resolveDispute (arbitrator : Bool) (disputeId : DisputeId) (resolution : Dict) : Reply :=
  if arbitrator then
    match world.disputes.get disputeId with
    | none => (world, some .disputeNotFound)
    | some dispute =>
        let resolved := { world with
          disputes := world.disputes.set disputeId { dispute with status := .resolved, resolution } }
        match world.orders dispute.orderId with
        | none =>
            if refunds print resolution then (resolved, some (.conflict .notFound))
            else
              (resolved.updateBill dispute.orderId fun bill => { bill with status := "locked" }, none)
        | some order =>
            if refunds print resolution then
              match order.markRefunded now with
              | .error error => (resolved, some (.conflict error))
              | .ok refunded =>
                  ((resolved.setOrder dispute.orderId refunded).updateBill dispute.orderId
                    fun bill => { bill with status := "refunded" }, none)
            else
              ((resolved.setOrder dispute.orderId (order.restoreFulfillment now)).updateBill
                dispute.orderId fun bill => { bill with status := "locked" }, none)
  else (world, some .notAnArbitrator)

/-- Whether the sweep refunds an order. -/
def timedOut (cutoff : ℚ) (order : MiniAppOrder) : Bool :=
  order.status ∈ [.locked, .executed, .evidenceSubmitted] ∧
    order.fulfillmentStatus ≠ .disputed ∧ order.updatedAt ≤ cutoff

/-- `sweep_timed_out_escrows`. -/
def sweepTimedOutEscrows (reference : ℚ) (hours : Int) : World :=
  if hours ≤ 0 then world
  else
    let cutoff := reference - hours * 3600
    { world with
      orders := fun orderId => (world.orders orderId).map fun order =>
        if timedOut cutoff order then (order.markRefunded now).toOption.getD order else order
      bills := fun orderId =>
        if (world.orders orderId).any (timedOut cutoff) then
          (world.bills orderId).modifyHead fun bill => { bill with status := "refunded" }
        else world.bills orderId }

end Endpoints

/-! ## The endpoints as a system -/

/-- A request by any session, or the sweep; what sessions and the identity store contribute
(identities, policies, whether the caller is an arbitrator) comes with it. -/
inductive Action where
  | createOrder (now : Int) (orderId : OrderId) (buyerIdentityId : String)
      (buyerWallet : Option String) (intent : Dict) (offer : Option (Dict × String × Option String))
  | attachOffer (now : Int) (orderId : OrderId) (offer : Dict) (sellerIdentityId : String)
      (sellerWallet : Option String)
  | signOrder (now : Int) (orderId : OrderId) (role : Role) (signature : String)
  | acceptOrder (now : Int) (orderId : OrderId) (identityId : Option String)
  | startOrder (now : Int) (orderId : OrderId) (identityId : Option String)
  | deliverOrder (now : Int) (orderId : OrderId) (identityId : Option String) (evidence : Dict)
  | policyCheck (now : Int) (orderId : OrderId) (policy : Dict)
  | settlementLock (now : Int) (orderId : OrderId) (bindingId : Option Int) (policy : Dict)
  | submitEvidence (now : Int) (orderId : OrderId) (evidence : Dict)
  | riskAssess (orderId : OrderId)
  | verificationRuns (now : Int) (orderId : OrderId) (riskFlags : List String) (runId : String)
  | settlementFinalize (now : Int) (orderId : OrderId)
  | openDispute (now : Int) (orderId : OrderId) (disputeId : DisputeId) (openedBy reason : String)
  | resolveDispute (now : Int) (arbitrator : Bool) (disputeId : DisputeId) (resolution : Dict)
  | sweep (now : Int) (reference : ℚ) (hours : Int)

/-- Perform a request; the identifiers of new orders and disputes are fresh. -/
def perform (print : Value → String) (world : World) : Action → Option World
  | .createOrder now orderId buyerIdentityId buyerWallet intent offer =>
      if (world.orders orderId).isNone then
        some (createOrder print world now orderId buyerIdentityId buyerWallet intent offer)
      else none
  | .attachOffer now orderId offer sellerIdentityId sellerWallet =>
      some (attachOffer print world now orderId offer sellerIdentityId sellerWallet).1
  | .signOrder now orderId role signature => some (signOrder world now orderId role signature).1
  | .acceptOrder now orderId identityId => some (acceptOrder world now orderId identityId).1
  | .startOrder now orderId identityId => some (startOrder world now orderId identityId).1
  | .deliverOrder now orderId identityId evidence =>
      some (deliverOrder world now orderId identityId evidence).1
  | .policyCheck now orderId policy => some (policyCheck world now orderId policy).1
  | .settlementLock now orderId bindingId policy =>
      some (settlementLock world now orderId bindingId policy).1
  | .submitEvidence now orderId evidence => some (submitEvidence world now orderId evidence).1
  | .riskAssess orderId => some (riskAssess world orderId).1
  | .verificationRuns now orderId riskFlags runId =>
      some (verificationRuns print world now orderId riskFlags runId).1
  | .settlementFinalize now orderId => some (settlementFinalize world now orderId).1
  | .openDispute now orderId disputeId openedBy reason =>
      if (world.disputes.get disputeId).isNone then
        some (openDispute world now orderId disputeId openedBy reason).1
      else none
  | .resolveDispute now arbitrator disputeId resolution =>
      some (resolveDispute print world now arbitrator disputeId resolution).1
  | .sweep now reference hours => some (sweepTimedOutEscrows world now reference hours)

def system (print : Value → String) : TransitionSystem World Action where
  Init world := world = {}
  Step world action next := perform print world action = some next

/-! ## What a step does to an order -/

/-- The operations of the order state machine. -/
inductive Operation where
  | attachOffer (offer : Dict) (sellerIdentityId : String) (sellerWallet : Option String)
  | sign (role : Role) (signature : String)
  | accept
  | startProcessing
  | deliver (evidence : Dict)
  | applyPolicy (policy : Dict)
  | markLocked (bindingId : Option Int)
  | submitEvidence (evidence : Dict)
  | markVerified (runId : String)
  | markSettled
  | markRefunded
  | markDisputed
  | restoreFulfillment

/-- The order after an operation, whether that raises or not. -/
def Operation.apply (print : Value → String) (now : Int) (order : MiniAppOrder) :
    Operation → MiniAppOrder
  | .attachOffer offer sellerIdentityId sellerWallet =>
      order.attachOffer now offer sellerIdentityId sellerWallet print
  | .sign role signature => order.sign now role.value signature
  | .accept => (order.accept now).toOption.getD order
  | .startProcessing => (order.startProcessing now).toOption.getD order
  | .deliver evidence => (order.deliver now evidence).toOption.getD order
  | .applyPolicy policy => (order.applyPolicy now policy).1
  | .markLocked bindingId => (order.markLocked now bindingId).toOption.getD order
  | .submitEvidence evidence => (order.submitEvidence now evidence).toOption.getD order
  | .markVerified runId => order.markVerified now runId
  | .markSettled => (order.markSettled now).toOption.getD order
  | .markRefunded => (order.markRefunded now).toOption.getD order
  | .markDisputed => order.markDisputed now
  | .restoreFulfillment => order.restoreFulfillment now

/-- Whether `settlement_finalize` gets so far as to settle the order. -/
def finalizes (world : World) (orderId : OrderId) (order : MiniAppOrder) : Bool :=
  (world.runs orderId).any (·.status = .pass) && !(world.risks orderId).any (·.hold) &&
    (world.openDisputes orderId).isEmpty && order.bindingId.isSome

/-- Whether `verification_runs` passes an order. -/
def passes (print : Value → String) (world : World) (orderId : OrderId) (order : MiniAppOrder)
    (riskFlags : List String) : Bool :=
  order.evidence.getD [] ≠ [] &&
    (verdict print world orderId order riskFlags).any (·.2 = .pass)

/-- The operations that a request applies to an order, one after the other. -/
def operations (print : Value → String) (world : World) (orderId : OrderId) (order : MiniAppOrder) :
    Action → List Operation
  | .attachOffer _ subject offer sellerIdentityId sellerWallet =>
      if subject = orderId then [.attachOffer offer sellerIdentityId sellerWallet] else []
  | .signOrder _ subject role signature =>
      if subject = orderId then [.sign role signature] else []
  | .acceptOrder _ subject identityId =>
      if subject = orderId ∧ requireSeller identityId order then [.accept] else []
  | .startOrder _ subject identityId =>
      if subject = orderId ∧ requireSeller identityId order then [.startProcessing] else []
  | .deliverOrder _ subject identityId evidence =>
      if subject = orderId ∧ requireSeller identityId order then [.deliver evidence] else []
  | .policyCheck _ subject policy => if subject = orderId then [.applyPolicy policy] else []
  | .settlementLock _ subject bindingId policy =>
      if subject = orderId then
        if order.status = .signed then [.applyPolicy policy, .markLocked bindingId]
        else [.markLocked bindingId]
      else []
  | .submitEvidence _ subject evidence =>
      if subject = orderId then [.submitEvidence evidence] else []
  | .verificationRuns _ subject riskFlags runId =>
      if subject = orderId ∧ passes print world orderId order riskFlags then [.markVerified runId]
      else []
  | .settlementFinalize _ subject =>
      if subject = orderId ∧ finalizes world orderId order then [.markSettled] else []
  | .openDispute _ subject _ _ _ =>
      if subject = orderId ∧ order.status ≠ .settled then [.markDisputed] else []
  | .resolveDispute _ arbitrator disputeId resolution =>
      if arbitrator ∧ (world.disputes.get disputeId).any (·.orderId = orderId) then
        if refunds print resolution then [.markRefunded] else [.restoreFulfillment]
      else []
  | .sweep _ reference hours =>
      if 0 < hours ∧ timedOut (reference - hours * 3600) order then [.markRefunded] else []
  | .createOrder .. | .riskAssess _ => []

/-- When a request touches the orders. -/
def Action.now : Action → Int
  | .createOrder now .. | .attachOffer now .. | .signOrder now .. | .acceptOrder now ..
  | .startOrder now .. | .deliverOrder now .. | .policyCheck now .. | .settlementLock now ..
  | .submitEvidence now .. | .verificationRuns now .. | .settlementFinalize now ..
  | .openDispute now .. | .resolveDispute now .. | .sweep now .. => now
  | .riskAssess _ => 0

section Steps

variable {print : Value → String} {world next : World} {action : Action} {now : Int}
  {orderId subject : OrderId} {order : MiniAppOrder}

@[simp] theorem setOrder_orders (world : World) (subject orderId : OrderId) (order : MiniAppOrder) :
    (world.setOrder subject order).orders orderId =
      if subject = orderId then some order else world.orders orderId := by
  by_cases same : subject = orderId
  · simp [World.setOrder, same]
  · simp [World.setOrder, same, update_of_ne (Ne.symm same)]

@[simp] theorem setOrder_bills (world : World) (orderId : OrderId) (order : MiniAppOrder) :
    (world.setOrder orderId order).bills = world.bills := rfl

@[simp] theorem updateBill_orders (world : World) (subject : OrderId) (change : Bill → Bill) :
    (world.updateBill subject change).orders = world.orders := rfl

theorem updateBill_bills (world : World) (subject orderId : OrderId) (change : Bill → Bill) :
    (world.updateBill subject change).bills orderId =
      (world.bills orderId).modifyHead (if subject = orderId then change else id) := by
  by_cases same : subject = orderId
  · simp [World.updateBill, same]
  · simp [World.updateBill, same, update_of_ne (Ne.symm same)]

/-- What a request about an order leaves alone: the other orders with their bills, and what does
not exist. -/
structure Writes (world : World) (subject : OrderId) (next : World) : Prop where
  orders : ∀ orderId, subject ≠ orderId → next.orders orderId = world.orders orderId
  absent : world.orders subject = none → next.orders subject = none
  bills : ∀ orderId, subject ≠ orderId → next.bills orderId = world.bills orderId
  unbilled : world.bills subject = [] → next.bills subject = []

/-- A world with the bills and disputes of another. -/
def SameCases (world next : World) : Prop := next.bills = world.bills ∧ next.disputes = world.disputes

theorem Writes.unchanged (orders : next.orders = world.orders) (bills : next.bills = world.bills) :
    Writes world subject next where
  orders _ _ := congrFun orders _
  absent := (congrFun orders subject).trans
  bills _ _ := congrFun bills _
  unbilled := (congrFun bills subject).trans

theorem Writes.stored {changed : MiniAppOrder} (present : world.orders subject = some order)
    (orders : next.orders = (world.setOrder subject changed).orders)
    (bills : next.bills = world.bills) : Writes world subject next where
  orders orderId other := by rw [orders, setOrder_orders, if_neg other]
  absent absent := nomatch absent.symm.trans present
  bills _ _ := congrFun bills _
  unbilled := (congrFun bills subject).trans

theorem Writes.updateBill (writes : Writes world subject next) (change : Bill → Bill) :
    Writes world subject (next.updateBill subject change) where
  orders := writes.orders
  absent := writes.absent
  bills orderId other := by
    rw [updateBill_bills, if_neg other, List.modifyHead_id]
    exact writes.bills orderId other
  unbilled none := by rw [updateBill_bills, writes.unbilled none, List.modifyHead_nil]

/-- A world without new orders and without bills where there were none. -/
def World.NoMore (world next : World) (orderId : OrderId) : Prop :=
  (world.orders orderId = none → next.orders orderId = none) ∧
    (world.bills orderId = [] → next.bills orderId = [])

theorem Writes.noMore (writes : Writes world subject next) (orderId : OrderId) :
    world.NoMore next orderId := by
  by_cases same : subject = orderId
  · subst same
    exact ⟨writes.absent, writes.unbilled⟩
  · exact ⟨(writes.orders orderId same).trans, (writes.bills orderId same).trans⟩

theorem change_writes (operation : MiniAppOrder → Except OrderError MiniAppOrder) :
    Writes world subject (world.change subject operation).1 ∧
      SameCases world (world.change subject operation).1 := by
  unfold World.change
  split
  · exact ⟨.unchanged rfl rfl, rfl, rfl⟩
  · rename_i present
    split
    · exact ⟨.unchanged rfl rfl, rfl, rfl⟩
    · exact ⟨.stored present rfl rfl, rfl, rfl⟩

theorem sellerChange_writes {identityId : Option String}
    (operation : MiniAppOrder → Except OrderError MiniAppOrder) :
    Writes world subject (sellerChange world subject identityId operation).1 ∧
      SameCases world (sellerChange world subject identityId operation).1 := by
  unfold sellerChange
  split
  · exact ⟨.unchanged rfl rfl, rfl, rfl⟩
  · split
    · exact change_writes operation
    · exact ⟨.unchanged rfl rfl, rfl, rfl⟩

theorem policyCheck_writes {policy : Dict} :
    Writes world subject (policyCheck world now subject policy).1 ∧
      SameCases world (policyCheck world now subject policy).1 := by
  unfold policyCheck
  split
  · exact ⟨.unchanged rfl rfl, rfl, rfl⟩
  · rename_i present
    exact ⟨.stored present rfl rfl, rfl, rfl⟩

theorem riskAssess_same : (riskAssess world subject).1.orders = world.orders ∧
    SameCases world (riskAssess world subject).1 := by
  unfold riskAssess
  split
  · exact ⟨rfl, rfl, rfl⟩
  · split <;> exact ⟨rfl, rfl, rfl⟩

theorem settlementLock_writes {bindingId : Option Int} {policy : Dict} :
    Writes world subject (settlementLock world now subject bindingId policy).1 ∧
      (settlementLock world now subject bindingId policy).1.disputes = world.disputes := by
  unfold settlementLock
  split
  · exact ⟨.unchanged rfl rfl, rfl⟩
  · rename_i present
    simp only []
    split
    · exact ⟨.stored present rfl rfl, rfl⟩
    · exact ⟨.stored present rfl rfl, rfl⟩
    · exact ⟨.stored present rfl rfl, rfl⟩
    · split
      · exact ⟨.stored present rfl rfl, rfl⟩
      · exact ⟨.updateBill (.stored present rfl rfl) _, rfl⟩

theorem verificationRuns_writes {riskFlags : List String} {runId : String} :
    Writes world subject (verificationRuns print world now subject riskFlags runId).1 ∧
      SameCases world (verificationRuns print world now subject riskFlags runId).1 := by
  unfold verificationRuns
  split
  · exact ⟨.unchanged rfl rfl, rfl, rfl⟩
  · rename_i present
    split
    · exact ⟨.unchanged rfl rfl, rfl, rfl⟩
    · split
      · exact ⟨.unchanged rfl rfl, rfl, rfl⟩
      · simp only []
        split
        · exact ⟨.stored present rfl rfl, rfl, rfl⟩
        · exact ⟨.unchanged rfl rfl, rfl, rfl⟩

theorem settlementFinalize_writes :
    Writes world subject (settlementFinalize world now subject).1 ∧
      (settlementFinalize world now subject).1.disputes = world.disputes := by
  unfold settlementFinalize
  split
  · exact ⟨.unchanged rfl rfl, rfl⟩
  · rename_i present
    split
    · exact ⟨.unchanged rfl rfl, rfl⟩
    · split
      · exact ⟨.unchanged rfl rfl, rfl⟩
      · split
        · exact ⟨.unchanged rfl rfl, rfl⟩
        · split
          · exact ⟨.unchanged rfl rfl, rfl⟩
          · split
            · exact ⟨.unchanged rfl rfl, rfl⟩
            · split
              · exact ⟨.unchanged rfl rfl, rfl⟩
              · exact ⟨.updateBill (.stored present rfl rfl) _, rfl⟩

theorem openDispute_writes {disputeId : DisputeId} {openedBy reason : String} :
    Writes world subject (openDispute world now subject disputeId openedBy reason).1 := by
  unfold openDispute
  split
  · exact .unchanged rfl rfl
  · rename_i present
    split
    · exact .unchanged rfl rfl
    · apply Writes.updateBill
      exact .stored present rfl rfl

/-- A resolution is about the order of the dispute. -/
theorem resolveDispute_writes {arbitrator : Bool} {disputeId : DisputeId} {resolution : Dict} :
    ∃ subject,
      Writes world subject (resolveDispute print world now arbitrator disputeId resolution).1 ∧
      ∀ dispute ∈ world.disputes.get disputeId, subject = dispute.orderId := by
  cases found : world.disputes.get disputeId with
  | none =>
      refine ⟨"", .unchanged ?_ ?_, nofun⟩ <;> cases arbitrator <;> simp [resolveDispute, found]
  | some dispute =>
      refine ⟨dispute.orderId, ?_, fun _ is => Option.some.inj is ▸ rfl⟩
      unfold resolveDispute
      rw [found]
      split
      · simp only []
        split
        · split
          · exact .unchanged rfl rfl
          · apply Writes.updateBill
            exact .unchanged rfl rfl
        · rename_i present
          split
          · split
            · exact .unchanged rfl rfl
            · apply Writes.updateBill
              exact .stored present rfl rfl
          · apply Writes.updateBill
            exact .stored present rfl rfl
      · exact .unchanged rfl rfl

theorem change_orders (subject : OrderId) (operation : MiniAppOrder → Except OrderError MiniAppOrder)
    (there : world.orders orderId = some order) :
    (world.change subject operation).1.orders orderId =
      some (if subject = orderId then (operation order).toOption.getD order else order) := by
  by_cases same : subject = orderId
  · subst same
    simp only [World.change, there, if_true]
    cases ran : operation order with
    | error => simpa [Except.toOption] using there
    | ok changed => simp [Except.toOption]
  · rw [(change_writes operation).1.orders orderId same, if_neg same]
    exact there

theorem sellerChange_orders {identityId : Option String}
    (operation : MiniAppOrder → Except OrderError MiniAppOrder)
    (there : world.orders orderId = some order) :
    (sellerChange world subject identityId operation).1.orders orderId =
      some (if subject = orderId ∧ requireSeller identityId order
        then (operation order).toOption.getD order else order) := by
  by_cases same : subject = orderId
  · subst same
    simp only [sellerChange, there, true_and]
    split
    case isTrue seller => simpa [seller] using change_orders subject operation there
    case isFalse => exact there
  · rw [(sellerChange_writes operation).1.orders orderId same]
    simpa [same] using there

variable (there : world.orders orderId = some order)

include there

theorem policyCheck_orders {policy : Dict} :
    (policyCheck world now subject policy).1.orders orderId =
      some (if subject = orderId then (order.applyPolicy now policy).1 else order) := by
  unfold policyCheck
  by_cases same : subject = orderId
  · subst same
    simp [there]
  · cases world.orders subject with
    | none => simpa [same] using there
    | some other => simpa [same] using there

omit there in
/-- A refused policy check leaves no order that can be locked. -/
theorem not_policyChecked_of_error {policy : Dict} {error : OrderError}
    (signed : order.status = .signed) (refused : (order.applyPolicy now policy).2 = some error) :
    (order.applyPolicy now policy).1.status ≠ .policyChecked := by
  have outcome := order.applyPolicy_outcome now policy
  generalize order.applyPolicy now policy = result at refused outcome
  cases outcome with
  | raised => simp [signed]
  | rejected => simp [MiniAppOrder.reject, MiniAppOrder.touch]
  | checked => simp at refused

omit there in
theorem markLocked_eq {bindingId : Option Int} (unchecked : order.status ≠ .policyChecked) :
    order.markLocked now bindingId = .error .policyCheckRequired := by
  simp [MiniAppOrder.markLocked, require, unchecked]

theorem settlementLock_orders {bindingId : Option Int} {policy : Dict} :
    (settlementLock world now subject bindingId policy).1.orders orderId =
      some ((operations print world orderId order
        (.settlementLock now subject bindingId policy)).foldl
          (fun order operation => operation.apply print now order) order) := by
  by_cases same : subject = orderId
  · subst same
    simp only [settlementLock, there, operations, if_true]
    by_cases signed : order.status = .signed
    · simp only [signed, if_true, List.foldl_cons, List.foldl_nil, Operation.apply]
      cases refused : (order.applyPolicy now policy).2 with
      | none =>
          cases (order.applyPolicy now policy).1.markLocked now bindingId <;>
            simp [Except.toOption]
      | some error =>
          rw [markLocked_eq (not_policyChecked_of_error signed refused)]
          cases error <;> simp [Except.toOption]
    · simp only [signed, if_false, List.foldl_cons, List.foldl_nil, Operation.apply]
      cases order.markLocked now bindingId <;> simp [Except.toOption]
  · rw [settlementLock_writes.1.orders orderId same]
    simpa [operations, same] using there

theorem verificationRuns_orders {riskFlags : List String} {runId : String} :
    (verificationRuns print world now subject riskFlags runId).1.orders orderId =
      some (if subject = orderId ∧ passes print world orderId order riskFlags
        then order.markVerified now runId else order) := by
  by_cases same : subject = orderId
  · subst same
    simp only [verificationRuns, there, true_and, passes]
    by_cases evidence : order.evidence.getD [] = []
    · simp [evidence, there]
    · simp only [evidence, if_false]
      cases decided : verdict print world subject order riskFlags with
      | none => simp [there]
      | some decision =>
          obtain ⟨risk, status⟩ := decision
          by_cases pass : status = .pass <;> simp [pass, evidence, there]
  · rw [verificationRuns_writes.1.orders orderId same]
    simpa [same] using there

theorem settlementFinalize_orders :
    (settlementFinalize world now subject).1.orders orderId =
      some (if subject = orderId ∧ finalizes world orderId order
        then (order.markSettled now).toOption.getD order else order) := by
  by_cases same : subject = orderId
  · subst same
    simp only [settlementFinalize, there, true_and, finalizes]
    cases world.runs subject with
    | none => simp [there]
    | some run =>
        by_cases failed : run.status = .pass
        · by_cases hold : (world.risks subject).any (·.hold) = true
          · simp [failed, hold, there]
          · cases disputes : world.openDisputes subject with
            | cons => simp [failed, hold, there]
            | nil =>
                by_cases binding : order.bindingId = none
                · simp [failed, hold, binding, there]
                · have bound : order.bindingId.isSome = true :=
                    Option.isSome_iff_ne_none.mpr binding
                  cases settled : order.markSettled now <;>
                    simp [failed, hold, binding, bound, there, Except.toOption]
        · simp [failed, there]
  · rw [settlementFinalize_writes.1.orders orderId same]
    simpa [same] using there

theorem openDispute_orders {disputeId : DisputeId} {openedBy reason : String} :
    (openDispute world now subject disputeId openedBy reason).1.orders orderId =
      some (if subject = orderId ∧ order.status ≠ .settled then order.markDisputed now
        else order) := by
  by_cases same : subject = orderId
  · subst same
    simp only [openDispute, there, true_and]
    by_cases settled : order.status = .settled <;> simp [settled, there]
  · rw [openDispute_writes.orders orderId same]
    simpa [same] using there

theorem resolveDispute_orders {arbitrator : Bool} {disputeId : DisputeId} {resolution : Dict} :
    (resolveDispute print world now arbitrator disputeId resolution).1.orders orderId =
      some (if arbitrator ∧ (world.disputes.get disputeId).any (·.orderId = orderId) then
        if refunds print resolution then (order.markRefunded now).toOption.getD order
        else order.restoreFulfillment now
      else order) := by
  cases arbitrator with
  | false => simpa [resolveDispute] using there
  | true =>
      cases found : world.disputes.get disputeId with
      | none => simpa [resolveDispute, found] using there
      | some dispute =>
          by_cases same : dispute.orderId = orderId
          · subst same
            simp only [resolveDispute, found, there]
            by_cases refund : refunds print resolution = true
            · cases order.markRefunded now <;> simp [there, refund, Except.toOption]
            · simp [refund]
          · obtain ⟨subject, writes, is⟩ := @resolveDispute_writes print world now true disputeId resolution
            rw [writes.orders orderId (is dispute found ▸ same)]
            simpa [same] using there

theorem sweep_orders {reference : ℚ} {hours : Int} :
    (sweepTimedOutEscrows world now reference hours).orders orderId =
      some (if 0 < hours ∧ timedOut (reference - hours * 3600) order
        then (order.markRefunded now).toOption.getD order else order) := by
  unfold sweepTimedOutEscrows
  by_cases enabled : hours ≤ 0
  · simp [enabled, not_lt.mpr enabled, there]
  · simp [enabled, not_le.mp enabled, there]

omit there

variable (step : perform print world action = some next) {property : MiniAppOrder → Prop}

include step

/-- After a request, an order is what the operations of the request have made of it. -/
theorem orders_step (there : world.orders orderId = some order) :
    next.orders orderId = some ((operations print world orderId order action).foldl
      (fun order operation => operation.apply print action.now order) order) := by
  cases action with
  | createOrder now subject buyerIdentityId buyerWallet intent offer =>
      simp only [perform, Option.ite_none_right_eq_some, Option.some.injEq] at step
      obtain ⟨fresh, rfl⟩ := step
      have different : subject ≠ orderId := by
        rintro rfl
        simp [there] at fresh
      cases offer with
      | none => simp [createOrder, operations, different, there]
      | some offer => simp [createOrder, operations, World.createBill, different, there]
  | attachOffer now subject | signOrder now subject =>
      obtain rfl := Option.some.inj step
      simp only [attachOffer, signOrder, change_orders _ _ there]
      by_cases same : subject = orderId <;> simp [operations, same, Operation.apply, Action.now,
        Except.toOption]
  | acceptOrder | startOrder | deliverOrder =>
      obtain rfl := Option.some.inj step
      simp only [acceptOrder, startOrder, deliverOrder, sellerChange_orders _ there, operations,
        Action.now]
      split <;> rfl
  | submitEvidence now subject evidence =>
      obtain rfl := Option.some.inj step
      rw [submitEvidence, change_orders _ _ there]
      simp only [operations, Action.now]
      split <;> rfl
  | settlementLock now subject bindingId policy =>
      obtain rfl := Option.some.inj step
      exact settlementLock_orders there
  | riskAssess subject =>
      obtain rfl := Option.some.inj step
      rw [riskAssess_same.1]
      exact there
  | policyCheck | verificationRuns | settlementFinalize | sweep =>
      obtain rfl := Option.some.inj step
      simp only [policyCheck_orders there, verificationRuns_orders there,
        settlementFinalize_orders there, sweep_orders there, operations, Action.now]
      split <;> rfl
  | openDispute now subject disputeId openedBy reason =>
      simp only [perform, Option.ite_none_right_eq_some, Option.some.injEq] at step
      obtain ⟨-, rfl⟩ := step
      rw [openDispute_orders there]
      simp only [operations, Action.now]
      split <;> rfl
  | resolveDispute now arbitrator disputeId resolution =>
      obtain rfl := Option.some.inj step
      rw [resolveDispute_orders there]
      simp only [operations, Action.now]
      split
      · split <;> rfl
      · rfl

/-- A step creates the order, or makes neither it nor a bill of it appear. -/
theorem creates_or_noMore (orderId : OrderId) :
    (∃ now buyerIdentityId buyerWallet intent offer,
      action = .createOrder now orderId buyerIdentityId buyerWallet intent offer) ∨
    world.NoMore next orderId := by
  cases action with
  | createOrder now subject buyerIdentityId buyerWallet intent offer =>
      simp only [perform, Option.ite_none_right_eq_some, Option.some.injEq] at step
      obtain ⟨-, rfl⟩ := step
      by_cases same : subject = orderId
      · exact .inl ⟨now, buyerIdentityId, buyerWallet, intent, offer, same ▸ rfl⟩
      · right
        cases offer <;>
          simp [createOrder, World.createBill, World.NoMore, same, update_of_ne (Ne.symm same)]
  | attachOffer | signOrder | submitEvidence =>
      obtain rfl := Option.some.inj step
      exact .inr ((change_writes _).1.noMore orderId)
  | acceptOrder | startOrder | deliverOrder =>
      obtain rfl := Option.some.inj step
      exact .inr ((sellerChange_writes _).1.noMore orderId)
  | policyCheck =>
      obtain rfl := Option.some.inj step
      exact .inr (policyCheck_writes.1.noMore orderId)
  | settlementLock =>
      obtain rfl := Option.some.inj step
      exact .inr (settlementLock_writes.1.noMore orderId)
  | riskAssess subject =>
      obtain rfl := Option.some.inj step
      have same := @riskAssess_same world subject
      exact .inr ((Writes.unchanged same.1 same.2.1 : Writes world subject _).noMore orderId)
  | verificationRuns =>
      obtain rfl := Option.some.inj step
      exact .inr (verificationRuns_writes.1.noMore orderId)
  | settlementFinalize =>
      obtain rfl := Option.some.inj step
      exact .inr (settlementFinalize_writes.1.noMore orderId)
  | openDispute =>
      simp only [perform, Option.ite_none_right_eq_some, Option.some.injEq] at step
      obtain ⟨-, rfl⟩ := step
      exact .inr (openDispute_writes.noMore orderId)
  | resolveDispute =>
      obtain rfl := Option.some.inj step
      obtain ⟨_, writes, -⟩ := resolveDispute_writes
      exact .inr (writes.noMore orderId)
  | sweep =>
      obtain rfl := Option.some.inj step
      refine .inr ⟨fun absent => ?_, fun none => ?_⟩
      · unfold sweepTimedOutEscrows
        split <;> simp [absent]
      · unfold sweepTimedOutEscrows
        split <;> simp [none]

/-- An order appears by its creation. -/
theorem createOrder_of_new (absent : world.orders orderId = none)
    (there : next.orders orderId = some order) :
    ∃ now buyerIdentityId buyerWallet intent offer,
      action = .createOrder now orderId buyerIdentityId buyerWallet intent offer := by
  refine (creates_or_noMore step orderId).resolve_right fun noMore => ?_
  cases (noMore.1 absent).symm.trans there

theorem orders_new (absent : world.orders orderId = none)
    (there : next.orders orderId = some order) :
    ∃ now buyerIdentityId buyerWallet intent,
      order = .create now buyerIdentityId intent buyerWallet print ∨
      ∃ offer sellerIdentityId sellerWallet,
        order = (MiniAppOrder.create now buyerIdentityId intent buyerWallet print).attachOffer now
          offer sellerIdentityId sellerWallet print := by
  obtain ⟨now, buyerIdentityId, buyerWallet, intent, offer, rfl⟩ :=
    createOrder_of_new step absent there
  simp only [perform, Option.ite_none_right_eq_some, Option.some.injEq] at step
  obtain ⟨-, rfl⟩ := step
  refine ⟨now, buyerIdentityId, buyerWallet, intent, ?_⟩
  cases offer with
  | none =>
      simp only [createOrder, setOrder_orders, if_true, Option.some.injEq] at there
      exact .inl there.symm
  | some offer =>
      obtain ⟨offer, sellerIdentityId, sellerWallet⟩ := offer
      simp only [createOrder, World.createBill, setOrder_orders, if_true, Option.some.injEq] at there
      exact .inr ⟨offer, sellerIdentityId, sellerWallet, there.symm⟩

omit step

/-- An operation that may raise leaves the order, or does what it does if it does not raise. -/
theorem kept_getD {outcome : Except OrderError MiniAppOrder} (raised : property order)
    (done : ∀ next, outcome = .ok next → property next) :
    property (outcome.toOption.getD order) := by
  cases outcome with
  | error => exact raised
  | ok next => exact done next rfl

/-- An operation with one check leaves the order alone, or the check holds. -/
theorem kept_require {condition : Prop} [Decidable condition] {error : OrderError}
    {next : MiniAppOrder} (raised : property order) (done : condition → property next) :
    property ((require condition error >>= fun _ => .ok next).toOption.getD order) := by
  refine kept_getD raised fun result ran => ?_
  obtain ⟨holds, is⟩ := require_bind_eq_ok.mp ran
  exact Except.ok.inj is ▸ done holds

theorem kept_require_two {first second : Prop} [Decidable first] [Decidable second]
    {firstError secondError : OrderError} {next : MiniAppOrder} (raised : property order)
    (done : first → second → property next) :
    property ((require first firstError >>= fun _ =>
      require second secondError >>= fun _ => .ok next).toOption.getD order) := by
  refine kept_getD raised fun result ran => ?_
  simp only [require_bind_eq_ok] at ran
  obtain ⟨one, two, is⟩ := ran
  exact Except.ok.inj is ▸ done one two

/-- What holds of every new order, and what admitted requests preserve of an order, holds of every
order in every state that a run of admitted requests reaches. -/
theorem order_invariant {allowed : World → Action → Prop}
    (created : ∀ now buyerIdentityId intent buyerWallet,
      property (.create now buyerIdentityId intent buyerWallet print))
    (offered : ∀ order now offer sellerIdentityId sellerWallet, property order →
      order.evidence = none → order.status = .draft →
      property (order.attachOffer now offer sellerIdentityId sellerWallet print))
    (kept : ∀ world orderId order action, allowed world action →
      world.orders orderId = some order → property order →
      property ((operations print world orderId order action).foldl
        (fun order operation => operation.apply print action.now order) order))
    (reachable : ((system print).restrict allowed).Reachable world)
    (there : world.orders orderId = some order) : property order := by
  suffices all : ∀ orderId order, world.orders orderId = some order → property order from
    all orderId order there
  refine reachable.invariant ?_ ?_
  · rintro _ rfl orderId order there
    simp at there
  · rintro state action next - known ⟨step, admitted⟩ orderId order there
    cases before : state.orders orderId with
    | none =>
        obtain ⟨now, buyerIdentityId, buyerWallet, intent, rfl | ⟨_, _, _, rfl⟩⟩ :=
          orders_new step before there
        · exact created now buyerIdentityId intent buyerWallet
        · exact offered _ now _ _ _ (created now buyerIdentityId intent buyerWallet) rfl rfl
    | some earlier =>
        rw [orders_step step before, Option.some.injEq] at there
        exact there ▸ kept state orderId earlier action admitted before (known orderId earlier before)

/-- What holds of every new order, and what every operation preserves, holds of every order in
every reachable state. -/
theorem operation_invariant (created : ∀ now buyerIdentityId intent buyerWallet,
      property (.create now buyerIdentityId intent buyerWallet print))
    (kept : ∀ now order operation, property order →
      property (Operation.apply print now order operation))
    (reachable : (system print).Reachable world) (there : world.orders orderId = some order) :
    property order := by
  obtain ⟨start, actions, initial, run⟩ := reachable
  refine order_invariant created ?_ ?_
    ⟨start, actions, initial, run.restrict fun _ _ _ => trivial⟩ there
  · intro order now offer sellerIdentityId sellerWallet holds _ _
    exact kept now order (.attachOffer offer sellerIdentityId sellerWallet) holds
  · intro world orderId order action _ _ holds
    exact List.foldlRecOn _ _ holds fun order holds operation _ => kept _ order operation holds

end Steps

/-! ## Requests to run the endpoints on -/

namespace Demo

/-- No float, list or dict is printed here. -/
def print : Value → String := fun _ => ""

abbrev Scene := Library.Scene (perform print) {}

theorem Scene.run (scene : Scene) : (system print).Run {} scene.actions scene.world :=
  Library.Scene.run (fun _ _ _ performed => performed) scene

theorem Scene.reachable (scene : Scene) : (system print).Reachable scene.world :=
  ⟨{}, scene.actions, rfl, scene.run⟩

theorem Scene.step (scene : Scene) (action : Action)
    (possible : (TransitionSystem.follow (perform print) {} (scene.actions ++ [action])).isSome) :
    (system print).Step scene.world action (scene.next action possible).world :=
  scene.performed action possible

/-- The policy of a buyer without an identity. -/
def policy : Dict := [("single_limit_usdc", .text "500"), ("daily_limit_usdc", .text "2000")]

/-- An order of the buyer, with an offer for ten. -/
def quoted : Scene where
  actions := [.createOrder 1 "o" "b" none [("scene_id", .text "digital")]
    (some ([("amount_usdc", .text "10")], "s", none))]
  possible := by decide +kernel

def checked : Scene := quoted.next (.policyCheck 2 "o" policy) (by decide +kernel)

def locked : Scene := checked.next (.settlementLock 3 "o" (some 7) policy) (by decide +kernel)

end Demo

end TrustChain.Commerce
